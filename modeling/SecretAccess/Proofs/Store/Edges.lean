import SecretAccess.Proofs.Store.Joins
import SecretAccess.Proofs.Text.Quoted

namespace SecretAccess

theorem toList_pairKey (endpoint group : String) :
    (pairKey (some (.text endpoint)) (some (.text group))).toList =
      '[' :: '"' :: (Text.escape endpoint.toList ++
        '"' :: ',' :: '"' :: (Text.escape group.toList ++ ['"', ']'])) := by
  have hlisted (a b : String) : String.intercalate "," [a, b] = a ++ "," ++ b := rfl
  simp [pairKey, Document.render, Document.renderItems, Document.listed, Text.quote, hlisted]

theorem pairKey_inj {endpoint group endpoint' group' : Given} (he : endpoint.IsText) (hg : group.IsText)
    (he' : endpoint'.IsText) (hg' : group'.IsText) (h : pairKey endpoint group = pairKey endpoint' group') :
    endpoint = endpoint' ∧ group = group' := by
  obtain ⟨e, rfl⟩ := he
  obtain ⟨g, rfl⟩ := hg
  obtain ⟨e', rfl⟩ := he'
  obtain ⟨g', rfl⟩ := hg'
  have hchars := congrArg String.toList h
  rw [toList_pairKey, toList_pairKey, List.cons_inj_right, List.cons_inj_right] at hchars
  obtain ⟨hendpoint, hrest⟩ := Text.escape_append_inj hchars
  rw [List.cons_inj_right, List.cons_inj_right] at hrest
  obtain ⟨hgroup, _⟩ := Text.escape_append_inj hrest
  rw [String.toList_injective hendpoint, String.toList_injective hgroup]
  exact ⟨rfl, rfl⟩

/-- An edge under the key of the pair that it joins, both of whose ends are texts. -/
structure Edge.Under (key : String) (row : Edge) : Prop where
  key : key = row.key
  endpoint : row.endpoint.IsText
  group : row.group.IsText

@[simp] theorem Outcome.store_unchanged {α : Type} (s : Store) (answer : Except Failure α) :
    (unchanged s answer).store = s := rfl

namespace Store

variable {s : Store}

def Keyed (s : Store) : Prop := ∀ edge key row, (s.edges edge).get? key = some row → row.Under key

theorem joined_iff_get? {edge : EdgeKind} {endpoint group : Given} :
    s.Joined edge endpoint group ↔
      ∃ key row, (s.edges edge).get? key = some row ∧ row.endpoint = endpoint ∧ row.group = group := by
  constructor
  · rintro ⟨row, hrow, hends⟩
    obtain ⟨key, hget⟩ := Table.mem_values_iff.1 hrow
    exact ⟨key, row, hget, hends⟩
  · rintro ⟨key, row, hget, hends⟩
    exact ⟨row, Table.mem_values_iff.2 ⟨key, hget⟩, hends⟩

theorem WellFormed.isText_of_joined (h : s.WellFormed) {edge : EdgeKind} {endpoint group : Given}
    (hjoined : s.Joined edge endpoint group) : endpoint.IsText ∧ group.IsText := by
  obtain ⟨row, hrow, rfl, rfl⟩ := hjoined
  exact h.ends_isText edge hrow

theorem WellFormed.keyed (h : s.WellFormed) : s.Keyed := by
  intro edge key row hget
  obtain ⟨hendpoint, hgroup⟩ := h.ends_isText edge (Table.mem_values_iff.2 ⟨key, hget⟩)
  exact ⟨(h.edges edge).key hget, hendpoint, hgroup⟩

theorem Keyed.pair_iff_key (h : s.Keyed) {edge : EdgeKind} {key : String} {row : Edge}
    (hget : (s.edges edge).get? key = some row) {endpoint group : Given} (hendpoint : endpoint.IsText)
    (hgroup : group.IsText) : row.endpoint = endpoint ∧ row.group = group ↔ key = pairKey endpoint group := by
  have hrow := h edge key row hget
  have hkey : key = pairKey row.endpoint row.group := hrow.key
  rw [hkey]
  constructor
  · rintro ⟨rfl, rfl⟩
    rfl
  · exact pairKey_inj hrow.endpoint hrow.group hendpoint hgroup

theorem Keyed.joined_iff (h : s.Keyed) {edge : EdgeKind} {endpoint group : Given}
    (hendpoint : endpoint.IsText) (hgroup : group.IsText) :
    s.Joined edge endpoint group ↔ s.linked edge endpoint group = true := by
  rw [joined_iff_get?, linked, Table.contains, Option.isSome_iff_exists]
  constructor
  · rintro ⟨key, row, hget, rfl, rfl⟩
    have hkey : key = pairKey row.endpoint row.group := (h edge key row hget).key
    exact ⟨row, hkey ▸ hget⟩
  · rintro ⟨row, hget⟩
    exact ⟨_, row, hget, (h.pair_iff_key hget hendpoint hgroup).2 rfl⟩

theorem linked_of_link_eq_ok {now : Instant} {edge : EdgeKind} {endpoint group : Given}
    (hok : (s.link now edge endpoint group).answer = .ok ()) :
    (s.link now edge endpoint group).store.linked edge endpoint group = true := by
  cases hrefusal : s.linkRefusal edge endpoint group with
  | some failure =>
      simp only [link, hrefusal] at hok
      cases hok
  | none =>
      by_cases hc : (s.edges edge).contains (pairKey endpoint group) = true
      · simp only [link, hrefusal, if_pos hc]
        exact hc
      · cases hstamp : now.toText? with
        | none =>
            simp only [link, hrefusal, if_neg hc, hstamp] at hok
            cases hok
        | some stamp =>
            simp only [link, hrefusal, if_neg hc, hstamp]
            simp [linked, Table.contains, Table.get?_put]

theorem joined_put {edge : EdgeKind} {key : String} (hfree : (s.edges edge).get? key = none) (row : Edge)
    {other : EdgeKind} {e g : Given} :
    (s.withEdges edge ((s.edges edge).put key row)).Joined other e g ↔
      s.Joined other e g ∨ other = edge ∧ e = row.endpoint ∧ g = row.group := by
  by_cases he : edge = other
  · subst he
    rw [joined_iff_get?, joined_iff_get?, edges_withEdges]
    constructor
    · rintro ⟨k, old, hget, rfl, rfl⟩
      rw [Table.get?_put] at hget
      split at hget
      · cases hget
        exact .inr ⟨rfl, rfl, rfl⟩
      · exact .inl ⟨k, old, hget, rfl, rfl⟩
    · rintro (⟨k, old, hget, rfl, rfl⟩ | ⟨_, rfl, rfl⟩)
      · refine ⟨k, old, ?_, rfl, rfl⟩
        rw [Table.get?_put, if_neg, hget]
        rintro rfl
        rw [hfree] at hget
        cases hget
      · exact ⟨key, row, by rw [Table.get?_put, if_pos rfl], rfl, rfl⟩
  · rw [Joined, Joined, edges_withEdges_of_ne s he, iff_self_or]
    rintro ⟨rfl, _⟩
    exact absurd rfl he

theorem WellFormed.joined_link (h : s.WellFormed) (now : Instant) (edge : EdgeKind) {endpoint group : Given}
    (hendpoint : endpoint.IsText) (hgroup : group.IsText) {other : EdgeKind} {e g : Given} :
    (s.link now edge endpoint group).store.Joined other e g ↔
      s.Joined other e g ∨ (other = edge ∧ e = endpoint ∧ g = group) ∧
        (s.link now edge endpoint group).answer = .ok () := by
  rcases link_cases s now edge endpoint group with ⟨answer, hl⟩ | ⟨stamp, _, hfree, _, hl⟩
  · rw [hl, Outcome.store_unchanged, iff_self_or]
    rintro ⟨⟨rfl, rfl, rfl⟩, hok⟩
    rw [← hl] at hok
    have hlinked := linked_of_link_eq_ok hok
    rw [hl, Outcome.store_unchanged] at hlinked
    exact (h.keyed.joined_iff hendpoint hgroup).2 hlinked
  · rw [hl, joined_put hfree]
    simp

theorem WellFormed.joined_erase (h : s.WellFormed) {edge : EdgeKind} {endpoint group : Given}
    (hendpoint : endpoint.IsText) (hgroup : group.IsText) {other : EdgeKind} {e g : Given} :
    (s.withEdges edge ((s.edges edge).erase (pairKey endpoint group))).Joined other e g ↔
      s.Joined other e g ∧ ¬(other = edge ∧ e = endpoint ∧ g = group) := by
  by_cases he : edge = other
  · subst he
    rw [joined_iff_get?, joined_iff_get?, edges_withEdges]
    constructor
    · rintro ⟨key, row, hget, rfl, rfl⟩
      rw [Table.get?_erase] at hget
      split at hget
      · cases hget
      · rename_i hkey
        refine ⟨⟨key, row, hget, rfl, rfl⟩, ?_⟩
        rintro ⟨_, rfl, rfl⟩
        exact hkey ((h.edges edge).key hget)
    · rintro ⟨⟨key, row, hget, rfl, rfl⟩, hpair⟩
      refine ⟨key, row, ?_, rfl, rfl⟩
      rw [Table.get?_erase, if_neg, hget]
      rintro rfl
      exact hpair ⟨rfl, (h.keyed.pair_iff_key hget hendpoint hgroup).2 rfl⟩
  · rw [Joined, Joined, edges_withEdges_of_ne s he, iff_self_and]
    rintro _ ⟨rfl, _⟩
    exact he rfl

theorem WellFormed.joined_unlink (h : s.WellFormed) (edge : EdgeKind) {endpoint group : Given}
    (hendpoint : endpoint.IsText) (hgroup : group.IsText) {other : EdgeKind} {e g : Given} :
    (s.unlink edge endpoint group).store.Joined other e g ↔
      s.Joined other e g ∧ ¬(other = edge ∧ e = endpoint ∧ g = group) := by
  rcases unlink_cases s edge endpoint group with ⟨hnone, hu⟩ | ⟨_, _, hu⟩
  · rw [hu, Outcome.store_unchanged, iff_self_and]
    rintro hjoined ⟨rfl, rfl, rfl⟩
    rw [h.keyed.joined_iff hendpoint hgroup, linked, Table.contains, hnone] at hjoined
    cases hjoined
  · rw [hu, h.joined_erase hendpoint hgroup]

def IsEnd (edge : EdgeKind) (kind : EntityKind) (id endpoint group : Given) : Prop :=
  kind = edge.endpoint ∧ endpoint = id ∨ kind = .group ∧ group = id

theorem refers_iff {edge : EdgeKind} {kind : EntityKind} {id : Given} {row : Edge} :
    refers edge kind id row = true ↔ IsEnd edge kind id row.endpoint row.group := by
  simp [refers, IsEnd]

theorem WellFormed.contains_of_isEnd (h : s.WellFormed) {edge : EdgeKind} {endpoint group : Given}
    (hjoined : s.Joined edge endpoint group) {kind : EntityKind} {id : Given}
    (hend : IsEnd edge kind id endpoint group) : (s.entities kind).contains (.value id) = true := by
  obtain ⟨key, row, hget, rfl, rfl⟩ := joined_iff_get?.1 hjoined
  rcases hend with ⟨rfl, rfl⟩ | ⟨rfl, rfl⟩
  · exact (h.edges edge).endpoint hget
  · exact (h.edges edge).group hget

theorem WellFormed.exists_row (h : s.WellFormed) {edge : EdgeKind} {endpoint group : Given}
    (hjoined : s.Joined edge endpoint group) {kind : EntityKind} {id : Given}
    (hend : IsEnd edge kind id endpoint group) : ∃ row ∈ (s.entities kind).values, row.id = id := by
  obtain ⟨row, hget⟩ := Option.isSome_iff_exists.1 (h.contains_of_isEnd hjoined hend)
  have hid : Identity.value id = .value row.id := (h.entities kind).key hget
  exact ⟨row, Table.mem_values_iff.2 ⟨_, hget⟩, (Identity.value.inj hid).symm⟩

theorem WellFormed.edges_delete (h : s.WellFormed) (kind : EntityKind) {id : Given} (hid : id.IsText)
    (edge : EdgeKind) :
    (s.delete kind id).store.edges edge = (s.edges edge).keep fun row => !refers edge kind id row.2 := by
  rcases delete_cases s kind id with ⟨hnone, hd⟩ | ⟨_, _, hd⟩
  · rw [get?, s.key_of_isText hid] at hnone
    rw [hd, Outcome.store_unchanged]
    symm
    apply Table.ext_rows
    apply List.filter_eq_self.2
    intro row hrow
    rw [Bool.not_eq_true', ← Bool.not_eq_true, refers_iff]
    intro hend
    have hjoined : s.Joined edge row.2.endpoint row.2.group := ⟨row.2, List.mem_map_of_mem hrow, rfl, rfl⟩
    have hstored := h.contains_of_isEnd hjoined hend
    rw [Table.contains, hnone] at hstored
    cases hstored
  · rw [hd, edges_cascade, edges_withEntities]

theorem WellFormed.joined_delete (h : s.WellFormed) (kind : EntityKind) {id : Given} (hid : id.IsText)
    {other : EdgeKind} {e g : Given} :
    (s.delete kind id).store.Joined other e g ↔ s.Joined other e g ∧ ¬IsEnd other kind id e g := by
  rw [joined_iff_get?, joined_iff_get?, h.edges_delete kind hid]
  simp only [Table.get?_keep, Option.filter_eq_some_iff, Bool.not_eq_true', ← Bool.not_eq_true, refers_iff]
  constructor
  · rintro ⟨key, edge, ⟨hget, hend⟩, rfl, rfl⟩
    exact ⟨⟨key, edge, hget, rfl, rfl⟩, hend⟩
  · rintro ⟨⟨key, edge, hget, rfl, rfl⟩, hend⟩
    exact ⟨key, edge, ⟨hget, hend⟩, rfl, rfl⟩

theorem edges_create (now : Instant) {kind : EntityKind} (draft : Draft kind) (edge : EdgeKind) :
    (s.create now draft).store.edges edge = s.edges edge := by
  have hdrawn : (s.drawId kind draft.id).2.edges edge = s.edges edge := table_drawId s kind draft.id (.edges edge)
  rcases create_cases s now draft with ⟨failure, hc⟩ | ⟨id, drawn, stamp, hdraw, _, _, hc⟩
  · rw [hc, Outcome.store_unchanged, hdrawn]
  · rw [hdraw] at hdrawn
    have hplaced : (drawn.withPlaceFor id).edges edge = drawn.edges edge := table_withPlaceFor drawn id (.edges edge)
    rw [hc, edges_withEntities, hplaced, hdrawn]

theorem joined_create (now : Instant) {kind : EntityKind} (draft : Draft kind) {other : EdgeKind} {e g : Given} :
    (s.create now draft).store.Joined other e g ↔ s.Joined other e g := by
  rw [Joined, Joined, edges_create]

@[simp] theorem linked_unlink (edge : EdgeKind) (endpoint group : Given) :
    (s.unlink edge endpoint group).store.linked edge endpoint group = false := by
  rcases unlink_cases s edge endpoint group with ⟨hnone, hu⟩ | ⟨_, _, hu⟩
  · rw [hu, Outcome.store_unchanged, linked, Table.contains, hnone]
    rfl
  · rw [hu, linked, edges_withEdges, Table.contains, Table.get?_erase, if_pos rfl]
    rfl

theorem contains_delete (kind : EntityKind) {id : Given} (hid : id.IsText) :
    ((s.delete kind id).store.entities kind).contains (.value id) = false := by
  rcases delete_cases s kind id with ⟨hnone, hd⟩ | ⟨_, _, hd⟩
  · rw [get?, s.key_of_isText hid] at hnone
    rw [hd, Outcome.store_unchanged, Table.contains, hnone]
    rfl
  · rw [hd, entities_cascade, entities_withEntities, s.key_of_isText hid, Table.contains, Table.get?_erase,
      if_pos rfl]
    rfl

structure HasEnds (s : Store) (edge : EdgeKind) (endpoint group : Given) : Prop where
  endpoint : (s.entities edge.endpoint).contains (.value endpoint) = true
  group : (s.entities .group).contains (.value group) = true

instance (edge : EdgeKind) (endpoint group : Given) : Decidable (s.HasEnds edge endpoint group) :=
  decidable_of_iff ((s.entities edge.endpoint).contains (.value endpoint) = true ∧
    (s.entities .group).contains (.value group) = true) ⟨fun h => ⟨h.1, h.2⟩, fun h => ⟨h.1, h.2⟩⟩

theorem HasEnds.contains {edge : EdgeKind} {endpoint group : Given} (h : s.HasEnds edge endpoint group)
    {kind : EntityKind} {id : Given} (hend : IsEnd edge kind id endpoint group) :
    (s.entities kind).contains (.value id) = true := by
  rcases hend with ⟨rfl, rfl⟩ | ⟨rfl, rfl⟩
  · exact h.endpoint
  · exact h.group

theorem not_hasEnds_cleared (edge : EdgeKind) (endpoint group : Given) :
    ¬s.cleared.HasEnds edge endpoint group := fun h => nomatch h.group

end Store

def Request.Concerns (edge : EdgeKind) (endpoint group : Given) : Request → Prop
  | .link other e g | .unlink other e g => other = edge ∧ e = endpoint ∧ g = group
  | _ => False

instance (edge : EdgeKind) (endpoint group : Given) :
    (request : Request) → Decidable (request.Concerns edge endpoint group)
  | .link .. | .unlink .. => inferInstanceAs (Decidable (_ ∧ _ ∧ _))
  | .create .. | .get .. | .getByName .. | .list _ | .delete .. | .groupsOf .. | .endpointsOf ..
  | .clientsForSecret _ | .secretPaths .. | .linked .. | .count _ => inferInstanceAs (Decidable False)

namespace Store

variable {s : Store}

/-- An edge comes and goes with requests that concern its pair, as long as its ends are there. -/
theorem WellFormed.linked_answer (h : s.WellFormed) (now : Instant) {request : Request} (ht : request.Textual)
    {edge : EdgeKind} {endpoint group : Given} (hendpoint : endpoint.IsText) (hgroup : group.IsText)
    (hends : (s.answer now request).store.HasEnds edge endpoint group)
    (hother : ¬request.Concerns edge endpoint group) :
    (s.answer now request).store.linked edge endpoint group = s.linked edge endpoint group := by
  rw [Bool.eq_iff_iff, ← (h.answer now ht).keyed.joined_iff hendpoint hgroup,
    ← h.keyed.joined_iff hendpoint hgroup]
  cases request with
  | create kind input =>
      rw [Store.answer, createAsked]
      split
      · exact joined_create now _
      · exact Iff.rfl
  | delete kind id =>
      rw [Store.answer, h.joined_delete kind ht, and_iff_left_iff_imp]
      -- a delete that takes the edge along takes one of its ends
      intro _ hend
      have hstored := hends.contains hend
      rw [Store.answer, contains_delete kind ht] at hstored
      cases hstored
  | link other e g =>
      rw [Store.answer, h.joined_link now other ht.1 ht.2, or_iff_left_iff_imp]
      rintro ⟨⟨rfl, rfl, rfl⟩, _⟩
      exact absurd ⟨rfl, rfl, rfl⟩ hother
  | unlink other e g =>
      rw [Store.answer, h.joined_unlink other ht.1 ht.2, and_iff_left_iff_imp]
      rintro _ ⟨rfl, rfl, rfl⟩
      exact hother ⟨rfl, rfl, rfl⟩
  | get | getByName | list | groupsOf | endpointsOf | clientsForSecret | secretPaths | linked | count =>
      exact Iff.rfl

end Store

end SecretAccess
