import SecretAccess.Proofs.Transaction.Rollback

namespace SecretAccess

theorem Table.Change.get?_cases {κ α : Type} [DecidableEq κ] {t u : Table κ α} {journal : List (κ × Option α)}
    (h : Change t u journal) (key : κ) :
    u.get? key = t.get? key ∨ t.get? key = none ∨ u.get? key = none := by
  cases h with
  | @put k absent value =>
      by_cases hk : key = k
      · subst hk
        exact .inr (.inl absent)
      · exact .inl (by rw [get?_put, if_neg hk])
  | keep test =>
      rw [get?_keep]
      cases hold : t.get? key with
      | none => exact .inr (.inl rfl)
      | some value => cases htest : test (key, value) <;> simp [Option.filter, htest]

theorem Store.get?_cleared (s : Store) (t : TableKind) (key : t.Key) : (s.cleared.table t).get? key = none := by
  cases t with
  | entities kind => cases kind <;> rfl
  | edges edge => cases edge <;> rfl

namespace Queue

/-- What the open transaction found under a key when it first wrote there. -/
def found (t : TableKind) (key : t.Key) (q : Queue) : List Event → Option (Option t.Row)
  | [] => none
  | e :: events => if q.OwnWrite t key e then some (q.value t key) else (q.after e).found t key events

/-- What would stand under a key if the open transaction was taken back now. -/
def backValue (q : Queue) (t : TableKind) (key : t.Key) : Option t.Row :=
  (q.journaledValue t key).getD (q.value t key)

def Elsewhere (q : Queue) (e : Event) : Prop := ∃ step ∈ q.stepOf e, q.owns step = false

structure AddsElsewhere (t : TableKind) (key : t.Key) (q : Queue) (e : Event) : Prop where
  elsewhere : q.Elsewhere e
  free : q.value t key = none
  taken : (q.after e).value t key ≠ none

structure RemovesElsewhere (t : TableKind) (key : t.Key) (q : Queue) (e : Event) : Prop where
  elsewhere : q.Elsewhere e
  taken : q.value t key ≠ none
  free : (q.after e).value t key = none

instance (q : Queue) (e : Event) : Decidable (q.Elsewhere e) := inferInstanceAs (Decidable (∃ step ∈ _, _))

variable {q : Queue} {e : Event} {events : List Event} {t : TableKind} {key : t.Key}

theorem journaledValue_run (hopen : q.StaysOpen events) :
    (q.run events).journaledValue t key = (q.journaledValue t key).or (q.found t key events) := by
  induction events generalizing q with
  | nil => rw [found, Option.or_none]; rfl
  | cons e events ih =>
      rw [run_cons, ih hopen.2, found]
      rcases journaledValue_after t key hopen.1 with ⟨hown, hj⟩ | ⟨hown, hj⟩
      · rw [if_pos hown, hj, Option.or_assoc, Option.some_or]
      · rw [if_neg hown, hj]

theorem found_append (first second : List Event) :
    q.found t key (first ++ second) = (q.found t key first).or ((q.run first).found t key second) := by
  induction first generalizing q with
  | nil => rfl
  | cons e first ih =>
      rw [List.cons_append, found, found, run_cons, ih]
      split
      · rfl
      · rfl

theorem store_of_no_step (hnone : q.stepOf e = none) (hopen : (q.after e).running.isSome = true) :
    (q.after e).session.store = q.session.store := by
  cases q.turn e with
  | settle _ _ hafter =>
      rw [hafter] at hopen
      cases hopen
  | effect effect _ =>
      cases effect with
      | still store => exact store
      | clear clears => rw [hnone] at clears; cases clears
      | request takes => rw [hnone] at takes; cases takes

theorem journaledValue_after_of_elsewhere (t : TableKind) (key : t.Key)
    (hopen : (q.after e).running.isSome = true) (h : q.Elsewhere e) :
    (q.after e).journaledValue t key = q.journaledValue t key := by
  rcases journaledValue_after t key hopen with ⟨⟨⟨step, htakes, howns⟩, _⟩, _⟩ | ⟨_, hj⟩
  · obtain ⟨other, hother, hnot⟩ := h
    cases Option.some.inj (htakes.symm.trans hother)
    rw [howns] at hnot
    cases hnot
  · exact hj

theorem backValue_after_of_elsewhere (t : TableKind) (key : t.Key)
    (hopen : (q.after e).running.isSome = true) (h : q.Elsewhere e) :
    (q.after e).backValue t key = (q.journaledValue t key).getD ((q.after e).value t key) := by
  rw [backValue, journaledValue_after_of_elsewhere t key hopen h]

theorem backValue_after_of_not_elsewhere (t : TableKind) (key : t.Key)
    (hopen : (q.after e).running.isSome = true) (h : ¬q.Elsewhere e) :
    (q.after e).backValue t key = q.backValue t key := by
  rcases journaledValue_after t key hopen with ⟨_, hj⟩ | ⟨hnot, hj⟩
  · rw [backValue, backValue, hj]
    cases q.journaledValue t key <;> rfl
  · have hsame : (q.after e).value t key = q.value t key := by
      cases hstep : q.stepOf e with
      | none => rw [value, value, store_of_no_step hstep hopen]
      | some step =>
          cases howns : q.owns step with
          | false => exact absurd ⟨step, hstep, howns⟩ h
          | true =>
              by_contra hdiff
              exact hnot ⟨⟨step, hstep, howns⟩, hdiff⟩
    rw [backValue, backValue, hj, hsame]

theorem value_after_cases (t : TableKind) (key : t.Key) (hopen : (q.after e).running.isSome = true) :
    (q.after e).value t key = q.value t key ∨ q.value t key = none ∨ (q.after e).value t key = none := by
  cases q.turn e with
  | settle _ _ hafter =>
      rw [hafter] at hopen
      cases hopen
  | effect effect _ =>
      cases effect with
      | still store => exact .inl (by rw [value, value, store])
      | clear _ store => exact .inr (.inr (by rw [value, store, Store.get?_cleared]))
      | request _ _ request _ asked =>
          have hchange := q.session.store.answer_changes q.session.clock request t
          rw [← asked.store] at hchange
          exact hchange.get?_cases key

theorem wellFormed_after (h : q.session.store.WellFormed) (htextual : q.Textual e)
    (hopen : (q.after e).running.isSome = true) : (q.after e).session.store.WellFormed := by
  cases q.turn e with
  | settle _ _ hafter =>
      rw [hafter] at hopen
      cases hopen
  | effect effect _ =>
      cases effect with
      | still store => exact store ▸ h
      | clear _ store => exact store ▸ Store.cleared_wellFormed _
      | request takes _ _ textual asked => exact asked.store ▸ h.answer _ (textual (htextual _ takes))

theorem run_invariant_or {holds : Queue → Prop} {allowed breaks : Queue → Event → Prop}
    (hstep : ∀ q e, holds q → allowed q e → holds (q.after e) ∨ breaks q e) {q : Queue} (h : holds q)
    {events : List Event} (hrun : q.Along allowed events) :
    holds (q.run events) ∨ ∃ before e rest, events = before ++ e :: rest ∧ breaks (q.run before) e := by
  induction events generalizing q with
  | nil => exact .inl h
  | cons e events ih =>
      rcases hstep q e h hrun.1 with hnext | hbroken
      · rcases ih hnext hrun.2 with hlast | ⟨before, e', rest, rfl, hbroken⟩
        · exact .inl hlast
        · exact .inr ⟨e :: before, e', rest, rfl, hbroken⟩
      · exact .inr ⟨[], e, events, rfl, hbroken⟩

theorem Along.and {allowed also : Queue → Event → Prop} {q : Queue} {events : List Event}
    (h : q.Along allowed events) (h' : q.Along also events) :
    q.Along (fun q e => allowed q e ∧ also q e) events := by
  induction events generalizing q with
  | nil => trivial
  | cons e events ih => exact ⟨⟨h.1, h'.1⟩, ih h.2 h'.2⟩

theorem settled_cases (hopen : q.running.isSome = true) (hended : (q.after .move).running = none) :
    q.Fails ∨ (q.after .move).session.store = q.session.store := by
  cases q.move with
  | stays running => rw [running] at hopen; cases hopen
  | begins running => rw [running] at hopen; cases hopen
  | @settles running isRunning rest hafter =>
      cases houtcome : running.ending.outcome running.failure with
      | error failure => exact .inl ⟨running, failure, isRunning, rest, houtcome⟩
      | ok returned =>
          refine .inr ?_
          rw [hafter, settle, Running.told, houtcome]
          rfl
  | @advances running step rest _ _ hafter =>
      have hticket := q.ticket_advance running step rest
      rw [← hafter, hended] at hticket
      cases hticket

theorem isSome_running_run (hrunning : q.running.isSome = true) (hopen : q.StaysOpen events) :
    (q.run events).running.isSome = true := by
  have hticket := congrArg Option.isSome (ticket_run_of_staysOpen hrunning hopen)
  rwa [Option.isSome_map, Option.isSome_map, hrunning] at hticket

theorem InUse.journaledValue_run (hq : q.InUse) {running : Running} (hbegins : q.Begins running)
    (hopen : (q.after .move).StaysOpen events) :
    ((q.after .move).run events).journaledValue t key = (q.after .move).found t key events := by
  rw [Queue.journaledValue_run hopen, hq.journaledValue_eq_none hbegins, Option.none_or]

theorem InUse.backValue_of_begins (hq : q.InUse) {running : Running} (hbegins : q.Begins running) (t : TableKind)
    (key : t.Key) : (q.after .move).backValue t key = (q.after .move).value t key := by
  rw [backValue, hq.journaledValue_eq_none hbegins, Option.getD_none]

end Queue

end SecretAccess
