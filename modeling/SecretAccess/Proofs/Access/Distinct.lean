import SecretAccess.Access.Query
import SecretAccess.Proofs.Access.Sorted
import SecretAccess.Proofs.Store.Joins

namespace SecretAccess

variable {α : Type}

theorem get?_foldl_first {κ : Type} [DecidableEq κ] (key : α → κ) (rows : List α) (seen : Table κ α) (k : κ) :
    (rows.foldl (fun seen row => if seen.contains (key row) then seen else seen.put (key row) row) seen).get? k =
      (seen.get? k).or (rows.find? (key · = k)) := by
  induction rows generalizing seen with
  | nil => simp
  | cons row rows ih =>
      rw [List.foldl_cons, ih]
      by_cases hk : key row = k
      · subst hk
        cases hseen : seen.get? (key row) with
        | some first => simp [Table.contains, hseen]
        | none => simp [Table.contains, hseen, Table.get?_put]
      · rw [List.find?_cons_of_neg (by simpa using hk)]
        split
        · rfl
        · rw [Table.get?_put, if_neg (Ne.symm hk)]

section

variable {κ : Type} [DecidableEq κ] {key : α → κ} {rows : List α}

theorem key_eq_of_find? {k : κ} {row : α} (h : rows.find? (key · = k) = some row) : key row = k := by
  have hpasses := List.find?_some h
  exact of_decide_eq_true hpasses

theorem mem_firstOfEach {row : α} : row ∈ firstOfEach key rows ↔ rows.find? (key · = key row) = some row := by
  rw [firstOfEach, Table.mem_values_iff]
  simp only [get?_foldl_first, Table.get?_empty, Option.none_or]
  constructor
  · rintro ⟨k, hfound⟩
    rwa [key_eq_of_find? hfound]
  · exact fun hfound => ⟨_, hfound⟩

theorem firstOfEach_eq [BEq κ] [LawfulBEq κ] (key : α → κ) (rows : List α) :
    (firstOfEach key rows).map some = (rows.map key).eraseDups.map fun k => rows.find? (key · = k) := by
  rw [firstOfEach, ← Table.map_get?_keys, Table.keys_foldl key]
  · apply List.map_congr_left
    intro k _
    rw [get?_foldl_first, Table.get?_empty, Option.none_or]
  · intro seen row
    by_cases h : key row ∈ seen.keys
    · rw [if_pos (Table.contains_iff.2 h), if_pos h]
    · rw [if_neg (mt Table.contains_iff.1 h), Table.keys_put]

theorem map_firstOfEach [BEq κ] [LawfulBEq κ] (key : α → κ) (rows : List α) :
    (firstOfEach key rows).map key = (rows.map key).eraseDups := by
  apply List.map_injective_iff.2 (Option.some_injective κ)
  calc ((firstOfEach key rows).map key).map some
      = ((firstOfEach key rows).map some).map (Option.map key) := by
        rw [List.map_map, List.map_map]
        rfl
    _ = (rows.map key).eraseDups.map fun k => (rows.find? (key · = k)).map key := by
      rw [firstOfEach_eq, List.map_map]
      rfl
    _ = (rows.map key).eraseDups.map some := by
      apply List.map_congr_left
      intro k hk
      obtain ⟨row, hrow, rfl⟩ := List.mem_map.1 (List.mem_eraseDups.1 hk)
      cases hfound : rows.find? (key · = key row) with
      | none =>
          rw [List.find?_eq_none] at hfound
          exact absurd (decide_eq_true rfl) (hfound row hrow)
      | some first => rw [Option.map_some, key_eq_of_find? hfound]

theorem nodup_firstOfEach : ((firstOfEach key rows).map key).Nodup := by
  rw [map_firstOfEach]
  exact Order.nodup_eraseDups _

theorem exists_firstOfEach {row : α} (hrow : row ∈ rows) : ∃ first ∈ firstOfEach key rows, key first = key row := by
  rw [← List.mem_map, map_firstOfEach, List.mem_eraseDups]
  exact List.mem_map_of_mem hrow

theorem firstOfEach_subset : firstOfEach key rows ⊆ rows :=
  fun _ hrow => List.mem_of_find?_eq_some (mem_firstOfEach.1 hrow)

theorem find?_of_nodup (h : (rows.map key).Nodup) {row : α} (hrow : row ∈ rows) :
    rows.find? (key · = key row) = some row := by
  obtain ⟨first, hfirst, hkey⟩ : ∃ first ∈ firstOfEach key rows, key first = key row := exists_firstOfEach hrow
  have hsame : first = row := List.inj_on_of_nodup_map h (firstOfEach_subset hfirst) hrow hkey
  rw [← hsame]
  exact mem_firstOfEach.1 hfirst

theorem firstOfEach_of_nodup (h : (rows.map key).Nodup) : firstOfEach key rows = rows := by
  apply List.map_injective_iff.2 (Option.some_injective α)
  rw [firstOfEach_eq, Order.eraseDups_of_nodup h, List.map_map]
  exact List.map_congr_left fun row hrow => find?_of_nodup h hrow

theorem firstOfEach_map {β : Type} (f : β → α) (rows : List β) :
    firstOfEach key (rows.map f) = (firstOfEach (fun row => key (f row)) rows).map f := by
  apply List.map_injective_iff.2 (Option.some_injective α)
  calc (firstOfEach key (rows.map f)).map some
      = ((rows.map f).map key).eraseDups.map fun k => (rows.map f).find? (key · = k) := firstOfEach_eq key _
    _ = ((rows.map fun row => key (f row)).eraseDups.map fun k =>
          rows.find? fun row => key (f row) = k).map (Option.map f) := by
      simp only [List.map_map, List.find?_map, Function.comp_def]
    _ = ((firstOfEach (fun row => key (f row)) rows).map f).map some := by
      rw [← firstOfEach_eq, List.map_map, List.map_map]
      rfl

theorem firstOfEach_injective {ι : Type} [DecidableEq ι] {g : κ → ι} (hg : Function.Injective g) :
    firstOfEach (fun row => g (key row)) rows = firstOfEach key rows := by
  apply List.map_injective_iff.2 (Option.some_injective α)
  have hkeys : (rows.map fun row => g (key row)).eraseDups = (rows.map key).eraseDups.map g := by
    rw [← Order.eraseDups_map hg, List.map_map]
    rfl
  rw [firstOfEach_eq, firstOfEach_eq, hkeys, List.map_map]
  simp only [Function.comp_def, hg.eq_iff]

end

theorem uniqueById_eq {id : α → Given} {rows : List α} (hid : ∀ row ∈ rows, (id row).standsAlone = false) :
    uniqueById id rows = firstOfEach id rows := by
  have hplaced : (rows.mapIdx fun place row => ((id row).identity place, row)) =
      rows.map fun row => (Identity.value (id row), row) := by
    apply List.ext_getElem
    · simp
    · intro n hn hn'
      rw [List.getElem_mapIdx, List.getElem_map, Given.identity, hid _ (List.getElem_mem _)]
      rfl
  rw [uniqueById, hplaced, firstOfEach_map, firstOfEach_injective fun _ _ => Identity.value.inj, List.map_map]
  exact List.map_id _

theorem uniqueById_of_texts {id : α → Given} {rows : List α} (htext : ∀ row ∈ rows, (id row).IsText) :
    ((uniqueById id rows).map id).Nodup ∧ uniqueById id rows ⊆ rows ∧
      ∀ row ∈ rows, ∃ first ∈ uniqueById id rows, id first = id row := by
  rw [uniqueById_eq fun row hrow => (htext row hrow).standsAlone_eq]
  exact ⟨nodup_firstOfEach, firstOfEach_subset, fun row hrow => exists_firstOfEach hrow⟩

/-- Rows that texts tell apart: those of one id are one row, and those of one name have one id. -/
structure Distinguished {kind : EntityKind} (rows : List (Entity kind)) : Prop where
  texts : ∀ row ∈ rows, row.id.IsText ∧ row.name.IsText
  ids : ∀ row ∈ rows, ∀ twin ∈ rows, row.id = twin.id → row = twin
  names : ∀ row ∈ rows, ∀ twin ∈ rows, row.name = twin.name → row.id = twin.id

section

variable {kind : EntityKind} {rows others : List (Entity kind)}

theorem Distinguished.subset (h : Distinguished rows) (hsub : others ⊆ rows) : Distinguished others where
  texts row hrow := h.texts row (hsub hrow)
  ids row hrow twin htwin := h.ids row (hsub hrow) twin (hsub htwin)
  names row hrow twin htwin := h.names row (hsub hrow) twin (hsub htwin)

theorem Distinguished.nodup_names (h : Distinguished rows) {α : Type} {row : α → Entity kind} {items : List α}
    (hrows : ∀ item ∈ items, row item ∈ rows) (honce : (items.map fun item => (row item).id).Nodup) :
    (items.map fun item => (row item).name).Nodup := by
  apply List.pairwise_map.2
  apply (List.pairwise_map.1 honce).imp_of_mem
  intro a b ha hb hne hname
  exact hne (h.names (row a) (hrows a ha) (row b) (hrows b hb) hname)

theorem Distinguished.exists_distinct (h : Distinguished rows) :
    ∃ listed, distinctByName rows = .ok listed ∧ (∀ row, row ∈ listed ↔ row ∈ rows) ∧
      listed.Pairwise fun a b => a.name.Below b.name := by
  obtain ⟨honce, hsub, hall⟩ := uniqueById_of_texts fun row hrow => (h.texts row hrow).1
  have hnames : ((uniqueById (·.id) rows).map (·.name)).Nodup := h.nodup_names (fun row hrow => hsub hrow) honce
  obtain ⟨listed, hsorted, hperm, hascend⟩ :=
    sortByName_of_texts (fun row hrow => (h.texts row (hsub hrow)).2) hnames
  refine ⟨listed, hsorted, fun row => ?_, hascend⟩
  rw [hperm.mem_iff]
  constructor
  · exact fun hrow => hsub hrow
  · intro hrow
    obtain ⟨first, hfirst, hid⟩ := hall row hrow
    rwa [← h.ids first (hsub hfirst) row hrow hid]

theorem Store.WellFormed.distinguished {s : Store} (h : s.WellFormed) (hrows : rows ⊆ (s.entities kind).values) :
    Distinguished rows where
  texts _ hrow := h.isText (hrows hrow)
  ids _ hrow _ htwin hid := h.eq_of_id (hrows hrow) (hrows htwin) hid
  names _ hrow _ htwin hname := by rw [h.eq_of_name (hrows hrow) (hrows htwin) hname]

theorem Store.WellFormed.exists_distinct {s : Store} (h : s.WellFormed) (hrows : rows ⊆ (s.entities kind).values) :
    ∃ listed, distinctByName rows = .ok listed ∧ (∀ row, row ∈ listed ↔ row ∈ rows) ∧
      listed.Pairwise fun a b => a.name.Below b.name :=
  (h.distinguished hrows).exists_distinct

end

end SecretAccess
