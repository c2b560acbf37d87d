import SecretAccess.Proofs.Transaction.Run

namespace SecretAccess

theorem Store.Changes.same_rollBack {s u : Store} {undo : List Undo} (h : s.Changes u undo)
    (journal : List Undo) : (u.rollBack (journal ++ undo)).Same (s.rollBack journal) := by
  intro t key
  rw [table_rollBack, table_rollBack, journalOf_append, Table.rollBack_append, Table.get?_rollBack,
    (h t).get?_rollBack (fun _ => rfl), Table.get?_rollBack]

namespace Queue

theorem rolledBack_after {q : Queue} {e : Event} (hidle : q.running = none → q.session.journal = [])
    (hexclusive : q.Exclusive e) (heffect : Effect q (q.stepOf e) (q.after e).session) :
    (q.after e).session.store.rollBack (q.after e).session.journal = (q.after e).session.store ∨
      ((q.after e).session.store.rollBack (q.after e).session.journal).Same
        (q.session.store.rollBack q.session.journal) := by
  cases heffect with
  | still store journal =>
      right
      rw [store, journal]
      exact fun _ _ => rfl
  | clear clears store journal =>
      left
      rw [journal, hidle (hexclusive.running_eq_none clears rfl rfl)]
      rfl
  | @request step takes writes request _ asked =>
      cases howns : q.owns step with
      | true =>
          right
          rw [asked.store, asked.journal, howns, if_pos rfl]
          exact (q.session.store.answer_changes _ _).same_rollBack _
      | false =>
          left
          rw [asked.journal, howns, if_neg Bool.false_ne_true,
            hidle (hexclusive.running_eq_none takes writes howns)]
          rfl

theorem store_after (holds : Store → Prop) {q : Queue} {e : Event} (h : holds q.session.store)
    (heffect : Effect q (q.stepOf e) (q.after e).session)
    (htake : ∀ step ∈ q.stepOf e, holds (q.take step).2.session.store) : holds (q.after e).session.store := by
  cases hstep : q.stepOf e with
  | some step =>
      rw [session_after_of_stepOf hstep]
      exact htake step hstep
  | none =>
      rw [hstep] at heffect
      cases heffect with
      | still store => exact store ▸ h
      | clear clears => cases clears
      | request takes => cases takes

/-- A run in which ids and names are texts and nobody writes into an open transaction. -/
def Serially (q : Queue) (events : List Event) : Prop :=
  q.Along (fun q e => q.Exclusive e ∧ q.Textual e) events

instance (q : Queue) (events : List Event) : Decidable (q.Serially events) :=
  inferInstanceAs (Decidable (q.Along _ events))

/-- The rows are well-formed, and they would be if the open transaction was taken back. -/
structure Sound (q : Queue) : Prop where
  rows : q.session.store.WellFormed
  back : (q.session.store.rollBack q.session.journal).WellFormed
  idle : q.running = none → q.session.journal = []

theorem Sound.settle {q : Queue} (h : q.Sound) (running : Running) : (q.settle running).Sound := by
  have hrows : (q.settle running).session.store.WellFormed := by
    simp only [Queue.settle, Session.close]
    split
    · exact h.back
    · exact h.rows
  exact ⟨hrows, hrows, fun _ => rfl⟩

theorem Sound.after {q : Queue} (h : q.Sound) {e : Event} (hexclusive : q.Exclusive e)
    (htextual : q.Textual e) : (q.after e).Sound := by
  cases q.turn e with
  | settle _ _ hafter =>
      rw [hafter]
      exact h.settle _
  | effect effect _ =>
      have hrows : (q.after e).session.store.WellFormed := by
        cases effect with
        | still store => exact store ▸ h.rows
        | clear _ store => exact store ▸ Store.cleared_wellFormed _
        | request takes _ _ textual asked => exact asked.store ▸ h.rows.answer _ (textual (htextual _ takes))
      refine ⟨hrows, ?_, idle_after h.idle e⟩
      rcases rolledBack_after h.idle hexclusive effect with hback | hsame
      · rw [hback]
        exact hrows
      · exact h.back.of_same hsame

theorem make_sound (now : Instant) (quiet : Bool) : (make now quiet).Sound :=
  ⟨Store.empty_wellFormed, Store.empty_wellFormed, fun _ => rfl⟩

theorem sound_run {q : Queue} (h : q.Sound) {events : List Event} (hrun : q.Serially events) :
    (q.run events).Sound :=
  run_invariant (fun _ _ h hallowed => h.after hallowed.1 hallowed.2) h hrun

/-- Every state of a serial run that starts from nothing has well-formed rows. -/
theorem wellFormed_of_serially (now : Instant) (quiet : Bool) (events : List Event)
    (h : (make now quiet).Serially events) :
    ((make now quiet).run events).session.store.WellFormed :=
  (sound_run (make_sound now quiet) h).rows

/-- A group with a member is deleted in a transaction and its name taken by another one; then the
transaction is taken back. -/
def renamedGroup : List Event :=
  let create (kind : EntityKind) (id name : String) : Call :=
    .request (.create kind (some (.fields [("id", .text id), ("name", .text name)])))
  [.step (.call .autocommit (create .group "g" "web")),
    .step (.call .autocommit (create .client "c" "ci")),
    .step (.call .autocommit (.mutate false .enrollClient "c" "g")),
    .call ⟨[.call .current (.request (.delete .group "g")), .call .current (create .group "h" "web")],
      ⟨some (.text "no"), false, none, none⟩⟩,
    .move, .move, .move, .move]

theorem wellFormed_of_serially_renamedGroup : (make 0 true).Serially renamedGroup ∧
    ((make 0 true).run renamedGroup).session.store.WellFormed :=
  ⟨by decide, wellFormed_of_serially 0 true renamedGroup (by decide)⟩

end Queue

end SecretAccess
