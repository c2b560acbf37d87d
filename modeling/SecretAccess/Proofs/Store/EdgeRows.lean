import Mathlib.Data.List.Nodup
import SecretAccess.Proofs.Store.Edges

namespace SecretAccess

def Request.Parts (edge : EdgeKind) (endpoint group : Given) : Request → Prop
  | .unlink other e g => other = edge ∧ e = endpoint ∧ g = group
  | .delete kind id => Store.IsEnd edge kind id endpoint group
  | _ => False

namespace Store

variable {s : Store} {edge other : EdgeKind} {endpoint group e g : Given}

def edge? (s : Store) (edge : EdgeKind) (endpoint group : Given) : Option Edge :=
  (s.edges edge).get? (pairKey endpoint group)

theorem linked_eq_isSome (s : Store) (edge : EdgeKind) (endpoint group : Given) :
    s.linked edge endpoint group = (s.edge? edge endpoint group).isSome := rfl

theorem WellFormed.edge?_ends (h : s.WellFormed) {row : Edge} (hendpoint : endpoint.IsText) (hgroup : group.IsText)
    (hrow : s.edge? edge endpoint group = some row) : row.endpoint = endpoint ∧ row.group = group :=
  (h.keyed.pair_iff_key hrow hendpoint hgroup).2 rfl

theorem edge?_withEdges {rows : Table String Edge} (hpair : ¬(other = edge ∧ e = endpoint ∧ g = group))
    (he : e.IsText) (hg : g.IsText) (hendpoint : endpoint.IsText) (hgroup : group.IsText)
    (hrows : ∀ key, key ≠ pairKey e g → rows.get? key = (s.edges other).get? key) :
    (s.withEdges other rows).edge? edge endpoint group = s.edge? edge endpoint group := by
  by_cases hother : other = edge
  · subst hother
    rw [edge?, edges_withEdges]
    apply hrows
    intro hkey
    obtain ⟨rfl, rfl⟩ := pairKey_inj hendpoint hgroup he hg hkey
    exact hpair ⟨rfl, rfl, rfl⟩
  · rw [edge?, edges_withEdges_of_ne s hother, edge?]

theorem edge?_link_of_ne (now : Instant) (hpair : ¬(other = edge ∧ e = endpoint ∧ g = group))
    (he : e.IsText) (hg : g.IsText) (hendpoint : endpoint.IsText) (hgroup : group.IsText) :
    (s.link now other e g).store.edge? edge endpoint group = s.edge? edge endpoint group := by
  rcases link_cases s now other e g with ⟨_, hl⟩ | ⟨_, _, _, _, hl⟩
  · rw [hl, Outcome.store_unchanged]
  · rw [hl]
    apply edge?_withEdges hpair he hg hendpoint hgroup
    intro key hkey
    rw [Table.get?_put, if_neg hkey]

theorem edge?_unlink_of_ne (hpair : ¬(other = edge ∧ e = endpoint ∧ g = group))
    (he : e.IsText) (hg : g.IsText) (hendpoint : endpoint.IsText) (hgroup : group.IsText) :
    (s.unlink other e g).store.edge? edge endpoint group = s.edge? edge endpoint group := by
  rcases unlink_cases s other e g with ⟨_, hu⟩ | ⟨_, _, hu⟩
  · rw [hu, Outcome.store_unchanged]
  · rw [hu]
    apply edge?_withEdges hpair he hg hendpoint hgroup
    intro key hkey
    rw [Table.get?_erase, if_neg hkey]

theorem edge?_link_self {now : Instant} (hok : (s.link now edge endpoint group).answer = .ok ()) :
    (s.link now edge endpoint group).store.edge? edge endpoint group = s.edge? edge endpoint group ∧
        (s.edge? edge endpoint group).isSome = true ∨
      s.edge? edge endpoint group = none ∧ ∃ stamp, now.toText? = some stamp ∧
        (s.link now edge endpoint group).store.edge? edge endpoint group = some ⟨endpoint, group, stamp⟩ := by
  have hlinked := linked_of_link_eq_ok hok
  rcases link_cases s now edge endpoint group with ⟨answer, hl⟩ | ⟨stamp, _, hfree, hstamp, hl⟩
  · rw [hl] at hlinked ⊢
    exact .inl ⟨rfl, hlinked⟩
  · rw [hl]
    refine .inr ⟨hfree, stamp, hstamp, ?_⟩
    rw [edge?, edges_withEdges, Table.get?_put, if_pos rfl]

theorem edge?_unlink_self : (s.unlink edge endpoint group).store.edge? edge endpoint group = none := by
  have hunlinked := s.linked_unlink edge endpoint group
  rwa [linked_eq_isSome, Option.isSome_eq_false_iff, Option.isNone_iff_eq_none] at hunlinked

theorem WellFormed.edge?_delete_of_isEnd (h : s.WellFormed) {kind : EntityKind} {id : Given} (hid : id.IsText)
    (hendpoint : endpoint.IsText) (hgroup : group.IsText) (hend : IsEnd edge kind id endpoint group) :
    (s.delete kind id).store.edge? edge endpoint group = none := by
  rw [edge?, h.edges_delete kind hid, Table.get?_keep, Option.filter_eq_none_iff]
  intro row hrow
  obtain ⟨rfl, rfl⟩ := h.edge?_ends hendpoint hgroup hrow
  simpa using refers_iff.2 hend

theorem WellFormed.edge?_delete_of_not_isEnd (h : s.WellFormed) {kind : EntityKind} {id : Given} (hid : id.IsText)
    (hendpoint : endpoint.IsText) (hgroup : group.IsText) (hend : ¬IsEnd edge kind id endpoint group) :
    (s.delete kind id).store.edge? edge endpoint group = s.edge? edge endpoint group := by
  rw [edge?, h.edges_delete kind hid, Table.get?_keep, ← edge?]
  cases hrow : s.edge? edge endpoint group with
  | none => rfl
  | some row =>
      obtain ⟨rfl, rfl⟩ := h.edge?_ends hendpoint hgroup hrow
      rw [← refers_iff, Bool.not_eq_true] at hend
      rw [Option.filter_some, hend]
      rfl

theorem answer_of_parts (s : Store) (now : Instant) {request : Request}
    (hparts : request.Parts edge endpoint group) : ∃ answer, (s.answer now request).answer = .ok answer := by
  cases request with
  | unlink other e g =>
      rcases unlink_cases s other e g with ⟨_, hu⟩ | ⟨_, _, hu⟩
      · exact ⟨(), by rw [Store.answer, hu]; rfl⟩
      · exact ⟨(), by rw [Store.answer, hu]⟩
  | delete kind id =>
      rcases delete_cases s kind id with ⟨_, hd⟩ | ⟨_, _, hd⟩
      · exact ⟨false, by rw [Store.answer, hd]; rfl⟩
      · exact ⟨true, by rw [Store.answer, hd]⟩
  | create | link | get | getByName | list | groupsOf | endpointsOf | clientsForSecret | secretPaths | linked
  | count => exact absurd hparts not_false

theorem WellFormed.edge?_answer_of_parts (h : s.WellFormed) (now : Instant) {request : Request}
    (ht : request.Textual) (hendpoint : endpoint.IsText) (hgroup : group.IsText)
    (hparts : request.Parts edge endpoint group) :
    (s.answer now request).store.edge? edge endpoint group = none := by
  cases request with
  | unlink other e g =>
      obtain ⟨rfl, rfl, rfl⟩ := hparts
      exact edge?_unlink_self
  | delete kind id => exact h.edge?_delete_of_isEnd ht hendpoint hgroup hparts
  | create | link | get | getByName | list | groupsOf | endpointsOf | clientsForSecret | secretPaths | linked
  | count => exact absurd hparts not_false

theorem WellFormed.edge?_answer_of_ne (h : s.WellFormed) (now : Instant) {request : Request} (ht : request.Textual)
    (hendpoint : endpoint.IsText) (hgroup : group.IsText) (hparts : ¬request.Parts edge endpoint group)
    (hlink : request ≠ .link edge endpoint group) :
    (s.answer now request).store.edge? edge endpoint group = s.edge? edge endpoint group := by
  cases request with
  | create kind input =>
      rw [Store.answer, createAsked]
      split
      · rw [edge?, edges_create, edge?]
      · rfl
  | delete kind id => exact h.edge?_delete_of_not_isEnd ht hendpoint hgroup hparts
  | link other e g =>
      refine edge?_link_of_ne now ?_ ht.1 ht.2 hendpoint hgroup
      rintro ⟨rfl, rfl, rfl⟩
      exact hlink rfl
  | unlink other e g => exact edge?_unlink_of_ne hparts ht.1 ht.2 hendpoint hgroup
  | get | getByName | list | groupsOf | endpointsOf | clientsForSecret | secretPaths | linked | count => rfl

def pairs (s : Store) (edge : EdgeKind) : List (Given × Given) :=
  (s.edges edge).values.map fun row => (row.endpoint, row.group)

theorem mem_pairs_iff : (endpoint, group) ∈ s.pairs edge ↔ s.Joined edge endpoint group := by
  simp only [pairs, Joined, List.mem_map, Prod.mk.injEq]

theorem WellFormed.nodup_pairs (h : s.WellFormed) (edge : EdgeKind) : (s.pairs edge).Nodup := by
  have hkeys : (s.pairs edge).map (fun pair => pairKey pair.1 pair.2) = (s.edges edge).keys := by
    rw [pairs, Table.values, List.map_map, List.map_map, Table.keys]
    apply List.map_congr_left
    intro row hrow
    exact ((h.edges edge).key (Table.get?_eq_some_iff.2 hrow)).symm
  refine List.Nodup.of_map (fun pair => pairKey pair.1 pair.2) ?_
  rw [hkeys]
  exact (s.edges edge).nodup

theorem length_pairs (s : Store) (edge : EdgeKind) : (s.pairs edge).length = s.count edge := by
  rw [pairs, Table.values, List.length_map, List.length_map, count, Table.size]

end Store

end SecretAccess
