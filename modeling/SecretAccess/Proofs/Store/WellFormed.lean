import SecretAccess.Proofs.Store.Writes

namespace SecretAccess

def Given.IsText (given : Given) : Prop := ∃ text : String, given = some (.text text)

theorem Given.isText_iff {given : Given} : given.IsText ↔ given.text?.isSome = true := by
  constructor
  · rintro ⟨text, rfl⟩
    rfl
  · intro h
    unfold text? at h
    split at h
    · exact ⟨_, rfl⟩
    · cases h

instance (given : Given) : Decidable given.IsText := decidable_of_iff _ Given.isText_iff.symm

theorem Given.IsText.isSome {given : Given} (h : given.IsText) : given.isSome = true := by
  obtain ⟨text, rfl⟩ := h
  rfl

theorem Given.part_eq_ok {given : Given} {name : String} (h : (given.field? name).isSome = true) (other : String) :
    given.part other = .ok (given.field? other) := by
  match given with
  | none | some .null => cases h
  | some (.flag _) | some (.number _) | some (.text _) | some (.list _) | some (.fields _) => rfl

theorem Given.IsText.standsAlone_eq {given : Given} (h : given.IsText) : given.standsAlone = false := by
  obtain ⟨text, rfl⟩ := h
  rfl

theorem Given.IsText.identity_eq {given : Given} (h : given.IsText) (place : Nat) :
    given.identity place = .value given := by
  obtain ⟨text, rfl⟩ := h
  rfl

theorem Given.IsText.sameAs_self {given : Given} (h : given.IsText) : given.sameAs given = true := by
  obtain ⟨text, rfl⟩ := h
  simp

theorem Given.IsText.sameAs_iff {given other : Given} (h : given.IsText) :
    other.sameAs given = true ↔ other = given := by
  constructor
  · intro hsame
    exact of_decide_eq_true (Bool.and_eq_true_iff.1 hsame).2
  · rintro rfl
    exact h.sameAs_self

theorem Store.key_of_isText (s : Store) {id : Given} (h : id.IsText) : s.key id = .value id :=
  h.identity_eq s.placed

/-- A request whose ids and names are texts, or that draws its id. -/
def Request.Textual : Request → Prop
  | .create _ input =>
      ((input.field? "id").present = none ∨ (input.field? "id").IsText) ∧ (input.field? "name").IsText
  | .delete _ id => id.IsText
  | .link _ endpoint group | .unlink _ endpoint group => endpoint.IsText ∧ group.IsText
  | _ => True

instance : (request : Request) → Decidable request.Textual
  | .create _ input => inferInstanceAs (Decidable ((_ ∨ (input.field? "id").IsText) ∧ _))
  | .delete _ id => inferInstanceAs (Decidable id.IsText)
  | .link _ endpoint group | .unlink _ endpoint group =>
      inferInstanceAs (Decidable (endpoint.IsText ∧ group.IsText))
  | .get .. | .getByName .. | .list _ | .groupsOf .. | .endpointsOf .. | .clientsForSecret _
  | .secretPaths .. | .linked .. | .count _ => inferInstanceAs (Decidable True)

theorem Entity.copy_copy {kind : EntityKind} (row : Entity kind) : row.copy.copy = row.copy := by
  cases kind <;> rfl

/-- Each row stands under its own id, as the copy that was made of it, and no two have the same name. -/
structure Table.Identified {kind : EntityKind} (t : Table Identity (Entity kind)) : Prop where
  key : ∀ {key row}, t.get? key = some row → key = .value row.id
  text : ∀ {key row}, t.get? key = some row → row.id.IsText ∧ row.name.IsText
  copied : ∀ {key row}, t.get? key = some row → row.copy = row
  unique : ∀ {key other row twin}, t.get? key = some row → t.get? other = some twin →
    row.name = twin.name → key = other

/-- Each edge of a kind stands under the pair that it joins, and both ends are stored. -/
structure Store.Tied (s : Store) (edge : EdgeKind) : Prop where
  key : ∀ {key row}, (s.edges edge).get? key = some row → key = row.key
  endpoint : ∀ {key row}, (s.edges edge).get? key = some row →
    (s.entities edge.endpoint).contains (.value row.endpoint) = true
  group : ∀ {key row}, (s.edges edge).get? key = some row →
    (s.entities .group).contains (.value row.group) = true

structure Store.WellFormed (s : Store) : Prop where
  entities : ∀ kind, (s.entities kind).Identified
  edges : ∀ edge, s.Tied edge

namespace Table.Identified

variable {kind : EntityKind} {t : Table Identity (Entity kind)}

theorem put (h : t.Identified) {row : Entity kind} (hid : row.id.IsText) (hname : row.name.IsText)
    (hcopy : row.copy = row) (hfresh : ∀ other ∈ t.values, other.name ≠ row.name) :
    (t.put (.value row.id) row).Identified := by
  have hcases {key : Identity} {found : Entity kind} (hf : (t.put (.value row.id) row).get? key = some found) :
      key = .value row.id ∧ found = row ∨ t.get? key = some found := by
    rw [get?_put] at hf
    by_cases hk : key = .value row.id
    · rw [if_pos hk] at hf
      exact .inl ⟨hk, (Option.some.inj hf).symm⟩
    · rw [if_neg hk] at hf
      exact .inr hf
  constructor
  · intro key found hf
    rcases hcases hf with ⟨hk, rfl⟩ | hf
    · exact hk
    · exact h.key hf
  · intro key found hf
    rcases hcases hf with ⟨_, rfl⟩ | hf
    · exact ⟨hid, hname⟩
    · exact h.text hf
  · intro key found hf
    rcases hcases hf with ⟨_, rfl⟩ | hf
    · exact hcopy
    · exact h.copied hf
  · intro key other found twin hf ht he
    rcases hcases hf with ⟨hk, hfound⟩ | hfound <;> rcases hcases ht with ⟨ho, htwin⟩ | htwin
    · rw [hk, ho]
    · exact absurd (hfound ▸ he).symm (hfresh twin (mem_values_iff.2 ⟨other, htwin⟩))
    · exact absurd (htwin ▸ he) (hfresh found (mem_values_iff.2 ⟨key, hfound⟩))
    · exact h.unique hfound htwin he

theorem erase (h : t.Identified) (key : Identity) : (t.erase key).Identified := by
  have hold {k : Identity} {row : Entity kind} (hf : (t.erase key).get? k = some row) : t.get? k = some row := by
    rw [get?_erase] at hf
    by_cases hk : k = key
    · rw [if_pos hk] at hf; cases hf
    · rwa [if_neg hk] at hf
  exact ⟨fun hf => h.key (hold hf), fun hf => h.text (hold hf), fun hf => h.copied (hold hf),
    fun hf ht he => h.unique (hold hf) (hold ht) he⟩

theorem contains_iff (h : t.Identified) {id : Given} :
    t.contains (.value id) = true ↔ ∃ row ∈ t.values, row.id = id := by
  rw [contains, Option.isSome_iff_exists]
  constructor
  · rintro ⟨row, hget⟩
    exact ⟨row, mem_values_iff.2 ⟨_, hget⟩, (Identity.value.inj (h.key hget)).symm⟩
  · rintro ⟨row, hrow, rfl⟩
    obtain ⟨key, hget⟩ := mem_values_iff.1 hrow
    exact ⟨row, h.key hget ▸ hget⟩

end Table.Identified

namespace Store

theorem empty_wellFormed : empty.WellFormed := by
  constructor
  · intro kind
    have hnone (key : Identity) : (empty.entities kind).get? key = none := by cases kind <;> rfl
    constructor <;> simp [hnone]
  · intro edge
    have hnone (key : String) : (empty.edges edge).get? key = none := by cases edge <;> rfl
    constructor <;> simp [hnone]

def Same (s u : Store) : Prop := ∀ t key, (s.table t).get? key = (u.table t).get? key

theorem WellFormed.of_same {s u : Store} (hs : s.WellFormed) (h : u.Same s) : u.WellFormed := by
  have he (kind : EntityKind) (key : Identity) : (u.entities kind).get? key = (s.entities kind).get? key :=
    h (.entities kind) key
  have hd (edge : EdgeKind) (key : String) : (u.edges edge).get? key = (s.edges edge).get? key :=
    h (.edges edge) key
  constructor
  · intro kind
    constructor <;> simp only [he]
    · exact (hs.entities kind).key
    · exact (hs.entities kind).text
    · exact (hs.entities kind).copied
    · exact (hs.entities kind).unique
  · intro edge
    constructor <;> simp only [he, hd, Table.contains]
    · exact (hs.edges edge).key
    · exact (hs.edges edge).endpoint
    · exact (hs.edges edge).group

theorem cleared_wellFormed (s : Store) : s.cleared.WellFormed := by
  apply empty_wellFormed.of_same
  intro t key
  cases t with
  | entities kind => cases kind <;> rfl
  | edges edge => cases edge <;> rfl

variable {s : Store}

theorem contains_withEntities_put {kind other : EntityKind} {key : Identity} {row : Entity kind} {k : Identity}
    (h : (s.entities other).contains k = true) :
    ((s.withEntities kind ((s.entities kind).put key row)).entities other).contains k = true := by
  by_cases he : kind = other
  · subst he
    rw [entities_withEntities, Table.contains, Table.get?_put]
    split
    · rfl
    · exact h
  · rwa [entities_withEntities_of_ne s he]

theorem contains_withEntities_erase {kind other : EntityKind} {key k : Identity}
    (h : (s.entities other).contains k = true) (hne : kind = other → k ≠ key) :
    ((s.withEntities kind ((s.entities kind).erase key)).entities other).contains k = true := by
  by_cases he : kind = other
  · subst he
    rw [entities_withEntities, Table.contains, Table.get?_erase, if_neg (hne rfl)]
    exact h
  · rwa [entities_withEntities_of_ne s he]

theorem identified_withEntities (h : s.WellFormed) {kind : EntityKind} {rows : Table Identity (Entity kind)}
    (hrows : rows.Identified) (other : EntityKind) : ((s.withEntities kind rows).entities other).Identified := by
  by_cases he : kind = other
  · subst he
    rwa [entities_withEntities]
  · rw [entities_withEntities_of_ne s he]
    exact h.entities other

theorem WellFormed.put_entity (h : s.WellFormed) {kind : EntityKind} (row : Entity kind) (hid : row.id.IsText)
    (hname : row.name.IsText) (hcopy : row.copy = row)
    (hfresh : ∀ other ∈ (s.entities kind).values, other.name ≠ row.name) :
    (s.withEntities kind ((s.entities kind).put (.value row.id) row)).WellFormed := by
  constructor
  · exact identified_withEntities h ((h.entities kind).put hid hname hcopy hfresh)
  · intro edge
    constructor <;> intro key found hf <;> rw [edges_withEntities] at hf
    · exact (h.edges edge).key hf
    · exact contains_withEntities_put ((h.edges edge).endpoint hf)
    · exact contains_withEntities_put ((h.edges edge).group hf)

theorem isText_drawId (s : Store) (kind : EntityKind) {asked : Given}
    (h : asked.present = none ∨ asked.IsText) : (s.drawId kind asked).1.IsText := by
  rcases h with h | ⟨text, rfl⟩
  · rw [drawId, h]
    exact ⟨_, rfl⟩
  · exact ⟨text, rfl⟩

theorem WellFormed.create (h : s.WellFormed) (now : Instant) {kind : EntityKind} {draft : Draft kind}
    (hid : draft.id.present = none ∨ draft.id.IsText) (hname : draft.name.IsText) :
    (s.create now draft).store.WellFormed := by
  have hdrawn : (s.drawId kind draft.id).2.WellFormed := h.of_same fun t key => by rw [table_drawId]
  rcases create_cases s now draft with ⟨failure, hc⟩ | ⟨id, drawn, stamp, hdraw, hrefusal, _, hc⟩
  · rw [hc]
    exact hdrawn
  · rw [hc]
    rw [hdraw] at hdrawn
    have hidText : id.IsText := by
      have hd := isText_drawId s kind hid
      rwa [hdraw] at hd
    have hfresh : ∀ other ∈ (drawn.entities kind).values, other.name ≠ draft.name := by
      intro other hother he
      have hdiff := (createRefusal_eq_none_iff.1 hrefusal).2 other hother
      rw [he, hname.sameAs_self] at hdiff
      cases hdiff
    have hsame : (drawn.withPlaceFor id).Same drawn := fun t key => by rw [table_withPlaceFor]
    have hrows : (drawn.withPlaceFor id).entities kind = drawn.entities kind :=
      table_withPlaceFor drawn id (.entities kind)
    rw [drawn.key_of_isText hidText, ← hrows]
    rw [← hrows] at hfresh
    exact (hdrawn.of_same hsame).put_entity (draft.entity id stamp).copy hidText hname (Entity.copy_copy _) hfresh

theorem WellFormed.delete (h : s.WellFormed) (kind : EntityKind) {id : Given} (hid : id.IsText) :
    (s.delete kind id).store.WellFormed := by
  rcases delete_cases s kind id with ⟨_, hd⟩ | ⟨row, hrow, hd⟩
  · rw [hd]
    exact h
  · rw [hd, s.key_of_isText hid]
    constructor
    · intro other
      rw [entities_cascade]
      exact identified_withEntities h ((h.entities kind).erase _) other
    · intro edge
      -- an edge that is left refers to another entity than the one that is gone
      have hleft {key : String} {found : Edge}
          (hf : (((s.withEntities kind ((s.entities kind).erase (.value id))).cascade id kind).1.edges edge).get? key =
            some found) :
          (s.edges edge).get? key = some found ∧ refers edge kind id found = false := by
        rw [edges_cascade, edges_withEntities, Table.get?_keep, Option.filter_eq_some_iff] at hf
        exact ⟨hf.1, by simpa using hf.2⟩
      constructor <;> intro key found hf <;> obtain ⟨hf, hrefers⟩ := hleft hf
      · exact (h.edges edge).key hf
      · rw [entities_cascade]
        apply contains_withEntities_erase ((h.edges edge).endpoint hf)
        rintro rfl he
        simp [refers, Identity.value.inj he] at hrefers
      · rw [entities_cascade]
        apply contains_withEntities_erase ((h.edges edge).group hf)
        rintro rfl he
        simp [refers, Identity.value.inj he] at hrefers

theorem WellFormed.withEdges (h : s.WellFormed) {edge : EdgeKind} {rows : Table String Edge}
    (hrows : ∀ {key row}, rows.get? key = some row → key = row.key ∧
      (s.entities edge.endpoint).contains (.value row.endpoint) = true ∧
      (s.entities .group).contains (.value row.group) = true) :
    (s.withEdges edge rows).WellFormed := by
  constructor
  · intro kind
    rw [entities_withEdges]
    exact h.entities kind
  · intro other
    by_cases he : edge = other
    · subst he
      constructor <;> intro key row hf <;> rw [edges_withEdges] at hf
      · exact (hrows hf).1
      · rw [entities_withEdges]
        exact (hrows hf).2.1
      · rw [entities_withEdges]
        exact (hrows hf).2.2
    · constructor <;> intro key row hf <;> rw [edges_withEdges_of_ne s he] at hf
      · exact (h.edges other).key hf
      · rw [entities_withEdges]
        exact (h.edges other).endpoint hf
      · rw [entities_withEdges]
        exact (h.edges other).group hf

theorem WellFormed.link (h : s.WellFormed) (now : Instant) (edge : EdgeKind) {endpoint group : Given}
    (hendpoint : endpoint.IsText) (hgroup : group.IsText) :
    (s.link now edge endpoint group).store.WellFormed := by
  rcases link_cases s now edge endpoint group with ⟨answer, hl⟩ | ⟨stamp, hrefusal, _, _, hl⟩
  · rw [hl]
    exact h
  · rw [hl]
    have hends := linkRefusal_eq_none_iff.1 hrefusal
    rw [contains, contains, s.key_of_isText hendpoint, s.key_of_isText hgroup] at hends
    apply h.withEdges
    intro key row hf
    rw [Table.get?_put] at hf
    by_cases hk : key = pairKey endpoint group
    · rw [if_pos hk] at hf
      cases hf
      exact ⟨hk, hends⟩
    · rw [if_neg hk] at hf
      exact ⟨(h.edges edge).key hf, (h.edges edge).endpoint hf, (h.edges edge).group hf⟩

theorem WellFormed.unlink (h : s.WellFormed) (edge : EdgeKind) (endpoint group : Given) :
    (s.unlink edge endpoint group).store.WellFormed := by
  rcases unlink_cases s edge endpoint group with ⟨_, hu⟩ | ⟨row, _, hu⟩
  · rw [hu]
    exact h
  · rw [hu]
    apply h.withEdges
    intro key row hf
    rw [Table.get?_erase] at hf
    by_cases hk : key = pairKey endpoint group
    · rw [if_pos hk] at hf; cases hf
    · rw [if_neg hk] at hf
      exact ⟨(h.edges edge).key hf, (h.edges edge).endpoint hf, (h.edges edge).group hf⟩

theorem WellFormed.answer (h : s.WellFormed) (now : Instant) {request : Request} (ht : request.Textual) :
    (s.answer now request).store.WellFormed := by
  cases request with
  | create kind input =>
      simp only [Store.answer, createAsked]
      split
      · exact h.create now ht.1 ht.2
      · exact h
  | delete kind id => exact h.delete kind ht
  | link edge endpoint group => exact h.link now edge ht.1 ht.2
  | unlink edge endpoint group => exact h.unlink edge endpoint group
  | get | getByName | list | groupsOf | endpointsOf | clientsForSecret | secretPaths | linked | count => exact h

end Store

end SecretAccess
