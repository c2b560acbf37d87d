import SecretAccess.Proofs.Store.Return
import SecretAccess.Proofs.Transaction.Tickets

namespace SecretAccess.Queue

def ofStore (s : Store) (now : Instant) (quiet : Bool) : Queue :=
  { make now quiet with session := ⟨s, now, [], [], quiet⟩ }

def InUse (q : Queue) : Prop :=
  ∃ s now quiet past, q = (ofStore s now quiet).run past

def Begins (q : Queue) (running : Running) : Prop :=
  q.running = none ∧ (q.after .move).running = some running

def StaysOpen (q : Queue) (events : List Event) : Prop :=
  q.Along (fun q e => (q.after e).running.isSome = true) events

def Fails (q : Queue) : Prop :=
  ∃ running failure, q.running = some running ∧ running.rest = [] ∧
    running.ending.outcome running.failure = .error failure

def value (q : Queue) (t : TableKind) (key : t.Key) : Option t.Row :=
  (q.session.store.table t).get? key

/-- In an event, the open transaction writes under a key and changes what stands there. -/
def OwnWrite (t : TableKind) (key : t.Key) (q : Queue) (e : Event) : Prop :=
  (∃ step ∈ q.stepOf e, q.owns step = true) ∧ (q.after e).value t key ≠ q.value t key

instance (q : Queue) (events : List Event) : Decidable (q.StaysOpen events) :=
  inferInstanceAs (Decidable (q.Along _ events))

instance (t : TableKind) (key : t.Key) (q : Queue) (e : Event) : Decidable (OwnWrite t key q e) :=
  inferInstanceAs (Decidable ((∃ step ∈ _, _) ∧ _))

def journaledValue (q : Queue) (t : TableKind) (key : t.Key) : Option (Option t.Row) :=
  (journalOf t q.session.journal).lookup key

variable {q : Queue} {e : Event} {t : TableKind} {key : t.Key}

theorem journaledValue_of_asked (t : TableKind) (key : t.Key) {step : Step} {request : Request}
    (h : q.session.Asked (q.owns step) request (q.after e).session) (howns : q.owns step = true) :
    (q.after e).journaledValue t key = (q.journaledValue t key).or
      (if (q.after e).value t key = q.value t key then none else some (q.value t key)) := by
  have hchange := q.session.store.answer_changes q.session.clock request t
  rw [← h.store] at hchange
  rw [journaledValue, h.journal, howns, if_pos rfl, journalOf_append, List.lookup_append]
  congr 1
  by_cases hsame : (q.after e).value t key = q.value t key
  · rw [if_pos hsame]
    exact hchange.lookup_of_eq hsame
  · rw [if_neg hsame]
    exact hchange.lookup_of_ne hsame

theorem journaledValue_after (t : TableKind) (key : t.Key) (hopen : (q.after e).running.isSome = true) :
    q.OwnWrite t key e ∧
        (q.after e).journaledValue t key = (q.journaledValue t key).or (some (q.value t key)) ∨
      ¬q.OwnWrite t key e ∧ (q.after e).journaledValue t key = q.journaledValue t key := by
  by_cases hown : ∃ step ∈ q.stepOf e, q.owns step = true
  · obtain ⟨step, htakes, howns⟩ := hown
    cases q.turn e with
    | settle _ _ hafter =>
        rw [hafter] at hopen
        cases hopen
    | effect effect _ =>
        cases effect with
        | still store journal =>
            exact .inr ⟨fun h => h.2 (by rw [value, value, store]), by rw [journaledValue, journaledValue, journal]⟩
        | clear clears =>
            cases Option.some.inj (htakes.symm.trans clears)
            cases howns
        | request takes _ request _ asked =>
            cases Option.some.inj (htakes.symm.trans takes)
            have hvalue := journaledValue_of_asked t key asked howns
            by_cases hsame : (q.after e).value t key = q.value t key
            · rw [if_pos hsame, Option.or_none] at hvalue
              exact .inr ⟨fun h => h.2 hsame, hvalue⟩
            · rw [if_neg hsame] at hvalue
              exact .inl ⟨⟨⟨step, htakes, howns⟩, hsame⟩, hvalue⟩
  · have hother : ∀ step ∈ q.stepOf e, q.owns step = false := by
      intro step htakes
      cases howns : q.owns step with
      | false => rfl
      | true => exact absurd ⟨step, htakes, howns⟩ hown
    refine .inr ⟨fun h => hown h.1, ?_⟩
    cases q.turn e with
    | settle _ _ hafter =>
        rw [hafter] at hopen
        cases hopen
    | effect effect _ => rw [journaledValue, journaledValue, effect.journal_eq hother]

theorem journaledValue_run_of_some {q : Queue} {events : List Event} (hopen : q.StaysOpen events)
    {before : Option t.Row} (h : q.journaledValue t key = some before) :
    (q.run events).journaledValue t key = some before := by
  induction events generalizing q with
  | nil => exact h
  | cons e events ih =>
      apply ih hopen.2
      rcases journaledValue_after t key hopen.1 with ⟨_, hj⟩ | ⟨_, hj⟩ <;> rw [hj, h]
      rfl

theorem journaledValue_run_of_not_written {q : Queue} {events : List Event} (hopen : q.StaysOpen events)
    (hnever : q.Along (fun q e => ¬q.OwnWrite t key e) events) :
    (q.run events).journaledValue t key = q.journaledValue t key := by
  induction events generalizing q with
  | nil => rfl
  | cons e events ih =>
      rw [run_cons, ih hopen.2 hnever.2]
      rcases journaledValue_after t key hopen.1 with ⟨hwrite, _⟩ | ⟨_, hj⟩
      · exact absurd hwrite hnever.1
      · exact hj

theorem after_move_of_fails (h : q.Fails) : ∃ running, q.running = some running ∧
    q.after .move = q.settle running ∧
    (q.after .move).session.store = q.session.store.rollBack q.session.journal := by
  obtain ⟨running, failure, hrunning, hrest, hfailure⟩ := h
  have hafter : q.after .move = q.settle running := by simp [after, next, hrunning, hrest]
  refine ⟨running, hrunning, hafter, ?_⟩
  rw [hafter, settle, Running.told, hfailure]
  rfl

theorem value_after_of_fails (h : q.Fails) (t : TableKind) (key : t.Key) :
    (q.after .move).value t key = (q.journaledValue t key).getD (q.value t key) := by
  obtain ⟨_, _, _, hstore⟩ := after_move_of_fails h
  rw [value, hstore, Store.table_rollBack, Table.get?_rollBack]
  rfl

theorem ofStore_ordered (s : Store) (now : Instant) (quiet : Bool) : (ofStore s now quiet).Ordered :=
  ⟨.nil, fun _ h => nomatch h⟩

theorem InUse.ordered {q : Queue} (h : q.InUse) : q.Ordered := by
  obtain ⟨s, now, quiet, past, rfl⟩ := h
  exact (ofStore_ordered s now quiet).run past

theorem InUse.idle {q : Queue} (h : q.InUse) (hnone : q.running = none) : q.session.journal = [] := by
  obtain ⟨s, now, quiet, past, rfl⟩ := h
  exact idle_run (fun _ => rfl) past hnone

theorem session_after_of_begins {running : Running} (h : q.Begins running) :
    (q.after .move).session = q.session := by
  cases q.move with
  | stays _ hafter => rw [hafter]
  | begins _ _ hafter => rw [hafter]; rfl
  | settles isRunning _ _ => rw [h.1] at isRunning; cases isRunning
  | advances isRunning _ _ => rw [h.1] at isRunning; cases isRunning

theorem ticket_run_of_staysOpen {q : Queue} {events : List Event} (hrunning : q.running.isSome = true)
    (hopen : q.StaysOpen events) :
    (q.run events).running.map (·.ticket) = q.running.map (·.ticket) := by
  induction events generalizing q with
  | nil => rfl
  | cons e events ih =>
      rw [run_cons, ih hopen.1 hopen.2]
      cases q.turn e with
      | settle _ _ hafter =>
          have hclosed : (q.after e).running.isSome = true := hopen.1
          rw [hafter] at hclosed
          cases hclosed
      | effect _ hticket => exact hticket hrunning

theorem InUse.journaledValue_eq_none (hq : q.InUse) {running : Running} (hbegins : q.Begins running)
    (t : TableKind) (key : t.Key) : (q.after .move).journaledValue t key = none := by
  rw [journaledValue, session_after_of_begins hbegins, hq.idle hbegins.1]
  rfl

theorem InUse.spent_of_fails (hq : q.InUse) {running : Running} (hbegins : q.Begins running) {events : List Event}
    (hopen : (q.after .move).StaysOpen events) (hfails : ((q.after .move).run events).Fails) :
    (((q.after .move).run events).after .move).Spent running.ticket := by
  obtain ⟨ended, hended, hafter, _⟩ := after_move_of_fails hfails
  have hticket := ticket_run_of_staysOpen (by rw [hbegins.2]; rfl) hopen
  rw [hended, hbegins.2] at hticket
  simp only [Option.map_some, Option.some.injEq] at hticket
  rw [hafter, ← hticket]
  exact ((hq.ordered.after .move).run events).spent_settle hended

theorem Spent.owns_eq_false {ticket : Nat} (h : q.Spent ticket) {name : String} {c : Call}
    (hname : q.kept.lookup name = some ticket) (hstep : q.stepOf e = some (.call (.kept name) c)) :
    ∀ step ∈ q.stepOf e, q.owns step = false := by
  intro step htakes
  cases Option.some.inj (hstep.symm.trans htakes)
  exact h.journaled_eq_false hname

/-- A transaction is taken back among any other writers. A key that it wrote has the value from before its
own first write there, any other key the value from just before the end. What comes through its context
after that enters no journal, and is another writer's for every later transaction. -/
theorem value_rolledBack (hq : q.InUse) {running : Running} (hbegins : q.Begins running)
    {events : List Event} (hopen : (q.after .move).StaysOpen events)
    (hfails : ((q.after .move).run events).Fails) :
    (∀ t key before e rest, events = before ++ e :: rest →
      (q.after .move).Along (fun q e => ¬q.OwnWrite t key e) before →
      ((q.after .move).run before).OwnWrite t key e →
      (((q.after .move).run events).after .move).value t key = ((q.after .move).run before).value t key) ∧
    (∀ t key, (q.after .move).Along (fun q e => ¬q.OwnWrite t key e) events →
      (((q.after .move).run events).after .move).value t key = ((q.after .move).run events).value t key) ∧
    ∀ later name call e,
      let r := (((q.after .move).run events).after .move).run later
      r.kept.lookup name = some running.ticket → r.stepOf e = some (.call (.kept name) call) →
      (r.after e).session.journal = r.session.journal ∧ ∀ t key, ¬r.OwnWrite t key e := by
  refine ⟨?_, ?_, ?_⟩
  · rintro t key before e rest rfl hnever hwrite
    obtain ⟨hbefore, hopened, hrest⟩ := along_append.1 hopen
    have hempty := hq.journaledValue_eq_none hbegins t key
    have hfirst : (((q.after .move).run before).after e).journaledValue t key =
        some (((q.after .move).run before).value t key) := by
      rcases journaledValue_after t key hopened with ⟨_, hj⟩ | ⟨hnot, _⟩
      · rw [hj, journaledValue_run_of_not_written hbefore hnever, hempty, Option.none_or]
      · exact absurd hwrite hnot
    rw [value_after_of_fails hfails, run_append, run_cons, journaledValue_run_of_some hrest hfirst,
      Option.getD_some]
  · intro t key hnever
    rw [value_after_of_fails hfails, journaledValue_run_of_not_written hopen hnever,
      hq.journaledValue_eq_none hbegins, Option.getD_none]
  · intro later name call e r hname hstep
    have hother := ((hq.spent_of_fails hbegins hopen hfails).run later).owns_eq_false hname hstep
    refine ⟨?_, fun t key hwrite => ?_⟩
    · cases r.turn e with
      | settle _ noStep _ =>
          rw [hstep] at noStep
          cases noStep
      | effect effect _ => exact effect.journal_eq hother
    · obtain ⟨⟨step, htakes, howns⟩, _⟩ := hwrite
      rw [hother step htakes] at howns
      cases howns

/-- An open transaction deletes a client. Its id goes to another client at once, and a group is made through
the context of a transaction that has ended. -/
def takenOver : List Event :=
  let create (kind : EntityKind) (id name : String) : Call :=
    .request (.create kind (some (.fields [("id", .text id), ("name", .text name)])))
  [.step (.call (.kept "open") (.request (.delete .client (some (.text "c"))))),
    .step (.call .autocommit (create .client "c" "other")),
    .step (.call (.kept "ended") (create .group "g" "web"))]

def beforeTakenOver : List Event :=
  [.step (.call .autocommit (.request (.create .client (some (.fields [("id", .text "c"), ("name", .text "ci")]))))),
    .call ⟨[], ⟨none, false, none, some "ended"⟩⟩, .move, .move,
    .call ⟨[], ⟨some (.text "no"), false, none, some "open"⟩⟩]

def afterTakenOver : List Event := [.call ⟨[], ⟨some (.text "no"), false, none, none⟩⟩, .move]

def lateCreate : Call := .request (.create .group (some (.fields [("id", .text "h"), ("name", .text "db")])))

theorem value_rolledBack_takenOver :
    let q := (make 0 true).run beforeTakenOver
    let r := (q.after .move).run takenOver
    let later := (r.after .move).run afterTakenOver
    let late : Event := .step (.call (.kept "open") lateCreate)
    q.InUse ∧ (q.after .move).StaysOpen takenOver ∧ r.Fails ∧
      (r.after .move).value (.entities .client) (.value (some (.text "c"))) =
        (q.after .move).value (.entities .client) (.value (some (.text "c"))) ∧
      (r.after .move).value (.entities .group) (.value (some (.text "g"))) =
        r.value (.entities .group) (.value (some (.text "g"))) ∧
      later.running.isSome = true ∧ (later.after late).session.journal = later.session.journal ∧
      (∀ t key, ¬later.OwnWrite t key late) ∧
      (later.after late).value (.entities .group) (.value (some (.text "h"))) ≠
        later.value (.entities .group) (.value (some (.text "h"))) := by
  intro q r later late
  have hq : q.InUse := ⟨.empty, 0, true, beforeTakenOver, rfl⟩
  have hbegins : q.Begins ⟨1, 2, [], ⟨some (.text "no"), false, none, some "open"⟩, [], none⟩ := ⟨rfl, rfl⟩
  have hopen : (q.after .move).StaysOpen takenOver := by decide
  have hfails : r.Fails := ⟨_, _, rfl, rfl, rfl⟩
  obtain ⟨hwritten, hothers, hlate⟩ := value_rolledBack hq hbegins hopen hfails
  obtain ⟨hjournal, hnever⟩ := hlate afterTakenOver "open" lateCreate late rfl rfl
  refine ⟨hq, hopen, hfails, ?_, ?_, rfl, hjournal, hnever, by decide⟩
  · exact hwritten (.entities .client) (.value (some (.text "c"))) [] _ _ rfl trivial (by decide)
  · exact hothers (.entities .group) (.value (some (.text "g"))) (by decide)

end SecretAccess.Queue
