import SecretAccess.Proofs.Transaction.Found
import SecretAccess.Proofs.Transaction.History
import SecretAccess.Proofs.Transaction.Lasting
import SecretAccess.Proofs.Transaction.Refused
import SecretAccess.Proofs.Transaction.Restored

namespace SecretAccess

def EntityKind.drawnId (kind : EntityKind) (n : Nat) : Given := some (.text s!"{kind.label}-{n}")

theorem EntityKind.drawnId_inj {kind : EntityKind} {n m : Nat} (h : kind.drawnId n = kind.drawnId m) : n = m := by
  have htext : s!"{kind.label}-{n}" = s!"{kind.label}-{m}" := Document.text.inj (Option.some.inj h)
  have hnumber : toString n = toString m := by simpa using htext
  have hread (k : Nat) : Nat.ofDigitChars 10 (toString k).toList 0 = k := by
    rw [Nat.toString_eq_ofList_toDigits, String.toList_ofList, Nat.ofDigitChars_ten_toDigits]
  rw [← hread n, hnumber, hread m]

theorem Given.eq_of_present_eq_some {given : Given} {value : Document} (h : given.present = some value) :
    given = some value := by
  unfold present at h
  split at h
  · cases h
  · exact h

def Request.idsGiven (kind : EntityKind) : Request → List Given
  | .create other input => if other = kind then [input.field? "id"] else []
  | _ => []

namespace Store

/-- The ids of the sequence that are stored were drawn, but for those that were given. -/
def Accounted (s : Store) (kind : EntityKind) (given : List Given) : Prop :=
  ∀ n, (s.entities kind).contains (.value (kind.drawnId n)) = true → kind.drawnId n ∈ given ∨ n ≤ s.issued

variable {s u : Store} {kind : EntityKind} {given : List Given}

theorem Accounted.mono (h : s.Accounted kind given) (hissued : s.issued ≤ u.issued)
    (hrows : ∀ n, (u.entities kind).contains (.value (kind.drawnId n)) = true →
      (s.entities kind).contains (.value (kind.drawnId n)) = true) : u.Accounted kind given :=
  fun n hn => (h n (hrows n hn)).imp_right (Nat.le_trans · hissued)

theorem Accounted.of_same (h : s.Accounted kind given) (hsame : u.Same s) (hissued : s.issued ≤ u.issued) :
    u.Accounted kind given := by
  apply h.mono hissued
  intro n hn
  have hkey : (u.entities kind).get? (.value (kind.drawnId n)) = (s.entities kind).get? (.value (kind.drawnId n)) :=
    hsame (.entities kind) _
  rwa [Table.contains, hkey] at hn

theorem accounted_cleared (s : Store) (kind : EntityKind) (given : List Given) : s.cleared.Accounted kind given := by
  intro n hn
  cases kind <;> cases hn

theorem drawId_of_present_eq_none {asked : Given} (h : asked.present = none) (s : Store) (kind : EntityKind) :
    (s.drawId kind asked).1 = kind.drawnId (s.issued + 1) := by
  rw [drawId, h]
  rfl

theorem eq_or_le_of_drawId {asked : Given} {n : Nat} (h : (s.drawId kind asked).1 = kind.drawnId n) :
    asked = kind.drawnId n ∨ n ≤ (s.drawId kind asked).2.issued := by
  cases hasked : asked.present with
  | none =>
      rw [drawId_of_present_eq_none hasked] at h
      rw [issued_drawId, hasked, ← EntityKind.drawnId_inj h]
      exact .inr (Nat.le_refl _)
  | some id =>
      rw [drawId, hasked] at h
      exact .inl ((Given.eq_of_present_eq_some hasked).trans h)

theorem eq_of_key_eq_value {id value : Given} (h : s.key id = .value value) : id = value := by
  unfold key Given.identity at h
  split at h
  · cases h
  · exact Identity.value.inj h

theorem Accounted.create (h : s.Accounted kind given) (now : Instant) {other : EntityKind} (draft : Draft other)
    (hgiven : other = kind → draft.id ∈ given) : (s.create now draft).store.Accounted kind given := by
  have hdrawn : (s.drawId other draft.id).2.entities kind = s.entities kind :=
    table_drawId s other draft.id (.entities kind)
  have hissued : s.issued ≤ (s.drawId other draft.id).2.issued := by
    rw [issued_drawId]
    exact Nat.le_add_right _ _
  rcases create_cases s now draft with ⟨failure, hc⟩ | ⟨id, drawn, stamp, hdraw, _, _, hc⟩
  · rw [hc]
    exact h.mono hissued fun n hn => hdrawn ▸ hn
  · rw [hdraw] at hdrawn hissued
    have hplaced : (drawn.withPlaceFor id).entities kind = s.entities kind :=
      (table_withPlaceFor drawn id (.entities kind)).trans hdrawn
    rw [hc]
    intro n hn
    rw [issued_withEntities, issued_withPlaceFor]
    by_cases hother : other = kind
    · subst hother
      rw [entities_withEntities, Table.contains, Table.get?_put] at hn
      by_cases hkey : Identity.value (other.drawnId n) = drawn.key id
      · have hid : (s.drawId other draft.id).1 = other.drawnId n := by
          rw [hdraw]
          exact eq_of_key_eq_value hkey.symm
        rcases eq_or_le_of_drawId hid with hasked | hle
        · exact .inl (hasked ▸ hgiven rfl)
        · rw [hdraw] at hle
          exact .inr hle
      · rw [if_neg hkey] at hn
        exact h.mono hissued (fun n hn => hdrawn ▸ hn) n hn
    · rw [entities_withEntities_of_ne _ hother, hplaced] at hn
      exact (h n hn).imp_right (Nat.le_trans · hissued)

theorem Accounted.answer (h : s.Accounted kind given) (now : Instant) {request : Request}
    (hgiven : ∀ id ∈ request.idsGiven kind, id ∈ given) : (s.answer now request).store.Accounted kind given := by
  have hissued : s.issued ≤ (s.answer now request).store.issued := by
    rw [issued_answer]
    exact Nat.le_add_right _ _
  cases request with
  | create other input =>
      rw [Store.answer, createAsked]
      split
      · apply h.create now
        rintro rfl
        exact hgiven _ (by simp [Request.idsGiven, Given.draft])
      · exact h
  | delete other id =>
      apply h.mono hissued
      intro n hn
      rcases delete_cases s other id with ⟨_, hd⟩ | ⟨_, _, hd⟩ <;> rw [Store.answer, hd] at hn
      · exact hn
      · rw [entities_cascade] at hn
        by_cases hother : other = kind
        · subst hother
          rw [entities_withEntities, Table.contains, Table.get?_erase] at hn
          split at hn
          · cases hn
          · exact hn
        · rwa [entities_withEntities_of_ne s hother] at hn
  | link edge endpoint group =>
      apply h.mono hissued
      intro n hn
      rwa [Store.answer, entities_link] at hn
  | unlink edge endpoint group =>
      apply h.mono hissued
      intro n hn
      rwa [Store.answer, entities_unlink] at hn
  | get | getByName | list | groupsOf | endpointsOf | clientsForSecret | secretPaths | linked | count => exact h

structure Gains (s : Store) (kind : EntityKind) (row : Entity kind) (u : Store) : Prop where
  rows : (u.entities kind).values = (s.entities kind).values ++ [row]
  fresh : ∀ old ∈ (s.entities kind).values, old.id ≠ row.id
  entities : ∀ other ≠ kind, u.entities other = s.entities other
  edges : ∀ edge, u.edges edge = s.edges edge

theorem WellFormed.gains_create (h : s.WellFormed) {now : Instant} (hclock : now.inRange = true)
    (draft : Draft kind) (hid : draft.id.present = none)
    (hfree : s.contains kind (kind.drawnId (s.issued + 1)) = false)
    (hname : ∀ row ∈ (s.entities kind).values, row.name ≠ draft.name) :
    ∃ row, (s.create now draft).answer = .ok row ∧ row.id = kind.drawnId (s.issued + 1) ∧ row.name = draft.name ∧
      s.Gains kind row (s.create now draft).store := by
  have hnext := drawId_of_present_eq_none hid s kind
  rcases create_cases s now draft with ⟨failure, hc⟩ | ⟨id, drawn, stamp, hdraw, hrefusal, _, hc⟩
  · have hreason : s.CreateFails now kind (s.drawId kind draft.id).1 draft.name failure :=
      create_eq_error_iff.1 (by rw [hc]; rfl)
    rw [hnext] at hreason
    cases hreason with
    | taken stored => exact absurd (hfree.symm.trans stored) Bool.false_ne_true
    | named _ stored same =>
        exact absurd (of_decide_eq_true (Bool.and_eq_true_iff.1 same).2) (hname _ stored)
    | timeless _ _ late => exact absurd (late.symm.trans hclock) Bool.false_ne_true
  · have htables (t : TableKind) : drawn.table t = s.table t := by
      rw [← table_drawId s kind draft.id, hdraw]
    have hplaced (t : TableKind) : (drawn.withPlaceFor id).table t = s.table t :=
      (table_withPlaceFor drawn id t).trans (htables t)
    rw [hdraw] at hnext
    cases hnext
    rw [hc]
    refine ⟨_, rfl, rfl, rfl, ?_, fun old hold hsame => ?_, fun other hother => ?_, fun edge => ?_⟩
    · rw [entities_withEntities, Table.values_put (createRefusal_eq_none_iff.1 hrefusal).1]
      exact congrArg (·.values ++ _) (htables (.entities kind))
    · have hstored := (h.get?_iff ⟨_, rfl⟩).2 ⟨hold, hsame⟩
      have hcontains : s.contains kind (kind.drawnId (s.issued + 1)) = true := Option.isSome_of_eq_some hstored
      exact absurd (hfree.symm.trans hcontains) Bool.false_ne_true
    · rw [entities_withEntities_of_ne _ hother.symm]
      exact hplaced (.entities other)
    · rw [edges_withEntities]
      exact hplaced (.edges edge)

end Store

def Step.idsGiven (kind : EntityKind) (step : Step) : List Given :=
  step.asks.toList.flatMap (Request.idsGiven kind)

namespace Queue

def idsGiven (kind : EntityKind) (q : Queue) (e : Event) : List Given :=
  (q.stepOf e).toList.flatMap (Step.idsGiven kind)

/-- The ids of the sequence are accounted for, and they would be if the open transaction was taken back. -/
structure Accounts (kind : EntityKind) (given : List Given) (q : Queue) : Prop where
  rows : q.session.store.Accounted kind given
  back : (q.session.store.rollBack q.session.journal).Accounted kind given

variable {q : Queue} {e : Event} {kind : EntityKind} {given : List Given}

theorem accounted_take (h : q.session.store.Accounted kind given) {step : Step}
    (hgiven : ∀ id ∈ step.idsGiven kind, id ∈ given) : (q.take step).2.session.store.Accounted kind given := by
  rcases q.take_cases step with ⟨hstore, _⟩ | ⟨_, hstore⟩ | ⟨request, hasks, hstore, _⟩
  · rw [hstore]
    exact h
  · rw [hstore]
    exact Store.accounted_cleared _ _ _
  · rw [hstore]
    apply h.answer
    intro id hid
    exact hgiven id (by simp [Step.idsGiven, hasks, hid])

theorem Accounts.settle (h : q.Accounts kind given) (running : Running) : (q.settle running).Accounts kind given := by
  have hrows : (q.settle running).session.store.Accounted kind given := by
    simp only [Queue.settle, Session.close]
    split
    · exact h.back
    · exact h.rows
  exact ⟨hrows, hrows⟩

theorem Accounts.after (h : q.Accounts kind given) (hidle : q.running = none → q.session.journal = [])
    (hexclusive : q.Exclusive e) (hgiven : ∀ id ∈ q.idsGiven kind e, id ∈ given) :
    (q.after e).Accounts kind given := by
  cases q.turn e with
  | settle _ _ hafter =>
      rw [hafter]
      exact h.settle _
  | effect effect _ =>
      have hrows : (q.after e).session.store.Accounted kind given :=
        store_after (·.Accounted kind given) h.rows effect fun step hstep =>
          accounted_take h.rows fun id hid => hgiven id (by simp [idsGiven, Option.mem_def.1 hstep, hid])
      refine ⟨hrows, ?_⟩
      rcases rolledBack_after hidle hexclusive effect with hback | hsame
      · rw [hback]
        exact hrows
      · -- what is taken back gives the same rows as before, and the sequence goes on
        apply h.back.of_same hsame
        rw [Store.issued_rollBack, Store.issued_rollBack]
        exact issued_le_after q e

theorem make_accounts (now : Instant) (quiet : Bool) (kind : EntityKind) (given : List Given) :
    (make now quiet).Accounts kind given :=
  ⟨Store.accounted_cleared .empty kind given, Store.accounted_cleared .empty kind given⟩

theorem along_of_trace {α : Type} {observe : Queue → Event → List α} {known : List α} {events : List Event}
    (h : ∀ a ∈ q.trace observe events, a ∈ known) : q.Along (fun q e => ∀ a ∈ observe q e, a ∈ known) events := by
  induction events generalizing q with
  | nil => trivial
  | cons e events ih =>
      exact ⟨fun a ha => h a (List.mem_append_left _ ha), ih fun a ha => h a (List.mem_append_right _ ha)⟩

theorem accounts_run (now : Instant) (quiet : Bool) {events : List Event} (h : (make now quiet).Serially events)
    (kind : EntityKind) :
    ((make now quiet).run events).Accounts kind ((make now quiet).trace (idsGiven kind) events) := by
  have hgiven := along_of_trace (fun id (hid : id ∈ (make now quiet).trace (idsGiven kind) events) => hid)
  generalize (make now quiet).trace (idsGiven kind) events = given at hgiven ⊢
  have hstep (q : Queue) (e : Event) (hq : q.Sound ∧ q.Accounts kind given)
      (hallowed : (q.Exclusive e ∧ q.Textual e) ∧ ∀ id ∈ q.idsGiven kind e, id ∈ given) :
      (q.after e).Sound ∧ (q.after e).Accounts kind given :=
    ⟨hq.1.after hallowed.1.1 hallowed.1.2, hq.2.after hq.1.idle hallowed.1.1 hallowed.2⟩
  exact (run_invariant hstep ⟨make_sound now quiet, make_accounts now quiet kind given⟩ (h.and hgiven)).2

/-- After a serial run, a create without an id whose name no row of its kind has, at an instant that can be written,
adds a row with an id of its own, unless the next id of the sequence is stored. Somebody has given that id then, and
the create fails and draws it all the same. -/
theorem create_drawn_of_serially (now : Instant) (quiet : Bool) (events : List Event)
    (h : (make now quiet).Serially events) (journaled : Bool) (kind : EntityKind)
    (entries : List (String × Document)) :
    let s := ((make now quiet).run events).session
    let input : Given := some (.fields entries)
    let create : Call := .request (.create kind input)
    let next : Given := kind.drawnId (s.store.issued + 1)
    (input.field? "id").present = none → s.clock.inRange = true →
    (∀ row ∈ (s.store.entities kind).values, row.name ≠ input.field? "name") →
    (s.store.contains kind next = false →
      ∃ row, s.run journaled create = (.ok row, (s.run journaled create).2) ∧ row.id = next ∧
        row.name = input.field? "name" ∧ s.store.Gains kind row (s.run journaled create).2.store) ∧
    (s.store.contains kind next = true →
      s.run journaled create = (.error (.duplicate s!"{kind.tableName}_pkey"), s.drawing create) ∧
        next ∈ (make now quiet).trace (idsGiven kind) events) := by
  intro s input create next hid hclock hname
  have hs : s.store.WellFormed := (sound_run (make_sound now quiet) h).rows
  constructor
  · intro hfree
    obtain ⟨row, hanswer, hrow⟩ := hs.gains_create hclock (input.draft kind) hid hfree hname
    exact ⟨row, Prod.ext hanswer rfl, hrow⟩
  · intro hstored
    have hnext : (s.store.drawId kind (input.draft kind).id).1 = next :=
      Store.drawId_of_present_eq_none hid s.store kind
    have htaken : s.store.contains kind (s.store.drawId kind (input.draft kind).id).1 = true := hnext ▸ hstored
    have hfails : (s.run journaled create).1 = .error (.duplicate s!"{kind.tableName}_pkey") :=
      Store.create_eq_error_iff.2 (.taken htaken)
    refine ⟨Prod.ext hfails (Session.run_of_error hfails), ?_⟩
    rcases (accounts_run now quiet h kind).rows (s.store.issued + 1) hstored with hgiven | hdrawn
    · exact hgiven
    · exact absurd hdrawn (Nat.not_succ_le_self _)

def firstGiven : List Event := [.step (.call .autocommit (creating .client "client-1" "ci"))]

def naming (kind : EntityKind) (name : String) : Call :=
  .request (.create kind (some (.fields [("name", .text name)])))

theorem create_drawn_of_serially_firstGiven :
    let s := ((make 0 true).run firstGiven).session
    (make 0 true).Serially firstGiven ∧ s.clock.inRange = true ∧
      (s.run true (naming .client "cd") = (.error (.duplicate "clients_pkey"), s.drawing (naming .client "cd")) ∧
        some (.text "client-1") ∈ (make 0 true).trace (idsGiven .client) firstGiven) ∧
      ∃ row : Group, s.run true (naming .group "web") = (.ok row, (s.run true (naming .group "web")).2) ∧
        row.id = some (.text "group-1") ∧ row.name = some (.text "web") ∧
        s.store.Gains .group row (s.run true (naming .group "web")).2.store := by
  intro s
  have hserially : (make 0 true).Serially firstGiven := by decide
  have hclients := create_drawn_of_serially 0 true firstGiven hserially true .client [("name", .text "cd")]
    rfl (by decide) (by decide)
  have hgroups := create_drawn_of_serially 0 true firstGiven hserially true .group [("name", .text "web")]
    rfl (by decide) (by decide)
  exact ⟨hserially, by decide, hclients.2 (by decide), hgroups.1 (by decide)⟩

/-- The name is free and the clock is in range, but the create fails: the id that it draws is stored. -/
theorem create_fails_firstGiven :
    let s := ((make 0 true).run firstGiven).session
    (make 0 true).Serially firstGiven ∧ s.clock.inRange = true ∧
      (∀ row ∈ (s.store.entities .client).values, row.name ≠ some (.text "cd")) ∧
      (s.run false (naming .client "cd")).1 = .error (.duplicate "clients_pkey") :=
  ⟨by decide, by decide, by decide, rfl⟩

end Queue

end SecretAccess
