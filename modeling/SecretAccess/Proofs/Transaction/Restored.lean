import SecretAccess.Proofs.Store.Issued
import SecretAccess.Proofs.Store.Return
import SecretAccess.Proofs.Transaction.Rollback

namespace SecretAccess

namespace Queue

def lostAlong (t : TableKind) (q : Queue) : List Event → List t.Key
  | [] => []
  | e :: events =>
      (q.session.store.table t).lostKeys ((q.after e).session.store.table t) ++ (q.after e).lostAlong t events

theorem issued_le_after (q : Queue) (e : Event) : q.session.store.issued ≤ (q.after e).session.store.issued := by
  cases q.turn e with
  | settle _ _ hafter =>
      rw [hafter]
      simp only [settle, Session.close]
      split
      · exact Nat.le_of_eq (Store.issued_rollBack _ _).symm
      · exact Nat.le_refl _
  | effect effect _ =>
      cases effect with
      | still store => exact Nat.le_of_eq (by rw [store])
      | clear _ store => exact Nat.le_of_eq (by rw [store]; rfl)
      | request _ _ request _ asked =>
          rw [asked.store, Store.issued_answer]
          exact Nat.le_add_right _ _

theorem issued_le_run (q : Queue) (events : List Event) :
    q.session.store.issued ≤ (q.run events).session.store.issued := by
  induction events generalizing q with
  | nil => exact Nat.le_refl _
  | cons e events ih => exact Nat.le_trans (issued_le_after q e) (ih (q.after e))

theorem changes_of_exclusive {q : Queue} {e : Event} (hrunning : q.running.isSome = true)
    (hopen : (q.after e).running.isSome = true) (hexclusive : q.Exclusive e) :
    ∃ undo, (q.after e).session.journal = q.session.journal ++ undo ∧
      q.session.store.Changes (q.after e).session.store undo := by
  cases q.turn e with
  | settle _ _ hafter =>
      rw [hafter] at hopen
      cases hopen
  | effect effect _ =>
      cases effect with
      | still store journal => exact ⟨[], by rw [journal, List.append_nil], store ▸ .refl _⟩
      | clear clears =>
          have howns := hexclusive _ clears rfl hrunning
          cases howns
      | request takes writes request _ asked =>
          have howns := hexclusive _ takes writes hrunning
          refine ⟨(q.session.store.answer q.session.clock request).undo, ?_, ?_⟩
          · rw [asked.journal, howns, if_pos rfl]
          · rw [asked.store]
            exact q.session.store.answer_changes _ request

theorem rollBack_run {q : Queue} {events : List Event} (hrunning : q.running.isSome = true)
    (hopen : q.StaysOpen events) (hexclusive : q.Along Exclusive events) :
    ∃ undo, (q.run events).session.journal = q.session.journal ++ undo ∧ ∀ t,
      let back := ((q.run events).session.store.table t).rollBack (journalOf t undo)
      let first := q.session.store.table t
      (∀ key, back.get? key = first.get? key) ∧
        back.rows = first.movedLast (first.firstLost (q.lostAlong t events)).reverse := by
  induction events generalizing q with
  | nil =>
      refine ⟨[], (List.append_nil _).symm, fun t => ⟨fun _ => rfl, ?_⟩⟩
      rw [lostAlong, Table.firstLost_nil, List.reverse_nil, Table.movedLast_nil]
      rfl
  | cons e events ih =>
      obtain ⟨undo, hjournal, hchanges⟩ := changes_of_exclusive hrunning hopen.1 hexclusive.1
      obtain ⟨later, hlater, hback⟩ := ih hopen.1 hopen.2 hexclusive.2
      refine ⟨undo ++ later, ?_, fun t => ?_⟩
      · rw [run_cons, hlater, hjournal, List.append_assoc]
      · obtain ⟨hsame, hrows⟩ := hback t
        rw [run_cons, journalOf_append, Table.rollBack_append]
        exact ⟨fun key => (hchanges t).get?_rollBack hsame key, (hchanges t).rows_rollBack _ hsame hrows⟩

/-- A transaction that nobody wrote into is taken back. Every key has the row that it had when the
transaction began. The rows that it never removed are in their order, and behind them are those that it
removed, in the reverse of the order in which it first removed them. No id is given back. -/
theorem rows_restored {q : Queue} (hq : q.InUse) {running : Running} (hbegins : q.Begins running)
    {events : List Event} (hopen : (q.after .move).StaysOpen events)
    (hexclusive : (q.after .move).Along Exclusive events) (hfails : ((q.after .move).run events).Fails) :
    let last := ((q.after .move).run events).after .move
    (∀ t, (∀ key, last.value t key = q.value t key) ∧
      (last.session.store.table t).rows = (q.session.store.table t).movedLast
        ((q.session.store.table t).firstLost ((q.after .move).lostAlong t events)).reverse) ∧
      q.session.store.issued ≤ last.session.store.issued := by
  intro last
  have hsession := session_after_of_begins hbegins
  obtain ⟨undo, hjournal, hback⟩ := rollBack_run (by rw [hbegins.2]; rfl) hopen hexclusive
  rw [hsession, hq.idle hbegins.1, List.nil_append] at hjournal
  obtain ⟨_, _, _, hstore⟩ := after_move_of_fails hfails
  rw [hjournal] at hstore
  refine ⟨fun t => ?_, ?_⟩
  · obtain ⟨hsame, hrows⟩ := hback t
    rw [hsession] at hsame hrows
    rw [← Store.table_rollBack, ← hstore] at hrows
    refine ⟨fun key => ?_, hrows⟩
    rw [value, value, ← hsame key, ← Store.table_rollBack, ← hstore]
  · calc q.session.store.issued
        ≤ (q.after .move).session.store.issued := issued_le_after q .move
      _ ≤ ((q.after .move).run events).session.store.issued := issued_le_run _ events
      _ ≤ last.session.store.issued := issued_le_after _ .move

/-- Of two clients the first one is deleted and made again, and then the other one is deleted. -/
def madeAgain : List Event :=
  let call (c : Call) : Event := .step (.call .current c)
  [call (.request (.delete .client (some (.text "a")))),
    call (.request (.create .client (some (.fields [("id", .text "a"), ("name", .text "third")])))),
    call (.request (.delete .client (some (.text "b")))),
    call (.request (.delete .client (some (.text "a"))))]

def beforeMadeAgain : List Event :=
  let create (id name : String) : Event :=
    .step (.call .autocommit (.request (.create .client (some (.fields [("id", .text id), ("name", .text name)])))))
  [create "a" "first", create "b" "second", .call ⟨[], ⟨some (.text "no"), false, none, none⟩⟩]

theorem rows_restored_madeAgain :
    let q := (make 0 true).run beforeMadeAgain
    let r := (q.after .move).run madeAgain
    q.InUse ∧ (q.after .move).StaysOpen madeAgain ∧ (q.after .move).Along Exclusive madeAgain ∧ r.Fails ∧
      (∀ key, (r.after .move).value (.entities .client) key = q.value (.entities .client) key) ∧
      ((r.after .move).session.store.table (.entities .client)).rows =
        (q.session.store.table (.entities .client)).movedLast
          [.value (some (.text "b")), .value (some (.text "a"))] := by
  intro q r
  have hq : q.InUse := ⟨.empty, 0, true, beforeMadeAgain, rfl⟩
  have hbegins : q.Begins ⟨0, 1, [], ⟨some (.text "no"), false, none, none⟩, [], none⟩ := ⟨rfl, rfl⟩
  have hopen : (q.after .move).StaysOpen madeAgain := by decide
  have hexclusive : (q.after .move).Along Exclusive madeAgain := by decide
  have hfails : r.Fails := ⟨_, _, rfl, rfl, rfl⟩
  obtain ⟨htables, _⟩ := rows_restored hq hbegins hopen hexclusive hfails
  obtain ⟨hvalues, hrows⟩ := htables (.entities .client)
  exact ⟨hq, hopen, hexclusive, hfails, hvalues, hrows.trans (by decide)⟩

end Queue

end SecretAccess
