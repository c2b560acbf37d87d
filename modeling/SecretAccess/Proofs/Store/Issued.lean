import SecretAccess.Proofs.Store.Writes

namespace SecretAccess

def Request.draws : Request → Bool
  | .create _ input => (input.part "id").toBool && (input.field? "id").present.isNone
  | _ => false

namespace Store

theorem issued_withEntities (s : Store) (kind : EntityKind) (rows : Table Identity (Entity kind)) :
    (s.withEntities kind rows).issued = s.issued := by
  cases kind <;> rfl

theorem issued_withEdges (s : Store) (edge : EdgeKind) (rows : Table String Edge) :
    (s.withEdges edge rows).issued = s.issued := by
  cases edge <;> rfl

theorem issued_rollBack (s : Store) (journal : List Undo) : (s.rollBack journal).issued = s.issued := by
  rw [rollBack, List.foldl_reverse]
  induction journal with
  | nil => rfl
  | cons undo journal ih =>
      rw [List.foldr_cons, ← ih]
      cases undo with
      | entity kind => exact issued_withEntities _ kind _
      | edge kind => exact issued_withEdges _ kind _

theorem issued_cascade (s : Store) (id : Given) (kind : EntityKind) :
    (s.cascade id kind).1.issued = s.issued := by
  cases kind <;> simp only [cascade, removeEdges, issued_withEdges]

theorem issued_drawId (s : Store) (kind : EntityKind) (asked : Given) :
    (s.drawId kind asked).2.issued = s.issued + asked.present.isNone.toNat := by
  unfold drawId
  split
  · rename_i hasked
    rw [hasked]
    rfl
  · rename_i hasked
    rw [hasked]
    rfl

theorem issued_withPlaceFor (s : Store) (id : Given) : (s.withPlaceFor id).issued = s.issued := by
  unfold withPlaceFor
  split <;> rfl

theorem issued_create (s : Store) (now : Instant) {kind : EntityKind} (draft : Draft kind) :
    (s.create now draft).store.issued = s.issued + draft.id.present.isNone.toNat := by
  rw [← s.issued_drawId kind]
  rcases create_cases s now draft with ⟨failure, h⟩ | ⟨id, drawn, stamp, hdraw, _, _, h⟩
  · rw [h]
    rfl
  · rw [h, hdraw, issued_withEntities, issued_withPlaceFor]

theorem issued_answer (s : Store) (now : Instant) (request : Request) :
    (s.answer now request).store.issued = s.issued + request.draws.toNat := by
  cases request with
  | create kind input =>
      simp only [answer, createAsked, Request.draws]
      split
      · rename_i hpart
        rw [hpart]
        exact issued_create s now _
      · rename_i hpart
        rw [hpart]
        rfl
  | delete kind id =>
      rcases delete_cases s kind id with ⟨_, h⟩ | ⟨row, _, h⟩
      · rw [answer, h]
        rfl
      · rw [answer, h, issued_cascade, issued_withEntities]
        rfl
  | link edge endpoint group =>
      rcases link_cases s now edge endpoint group with ⟨_, h⟩ | ⟨_, _, _, _, h⟩
      · rw [answer, h]
        rfl
      · rw [answer, h, issued_withEdges]
        rfl
  | unlink edge endpoint group =>
      rcases unlink_cases s edge endpoint group with ⟨_, h⟩ | ⟨_, _, h⟩
      · rw [answer, h]
        rfl
      · rw [answer, h, issued_withEdges]
        rfl
  | get | getByName | list | groupsOf | endpointsOf | clientsForSecret | secretPaths | linked | count => rfl

end Store

end SecretAccess
