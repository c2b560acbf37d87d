import SecretAccess.Proofs.Order.Distinct
import SecretAccess.Store.Table

namespace SecretAccess.Table

variable {κ α : Type}

theorem ext_rows {t u : Table κ α} (h : t.rows = u.rows) : t = u := by
  cases t with
  | mk rows nodup =>
      cases h
      rfl

theorem keep_true (t : Table κ α) : t.keep (fun _ => true) = t :=
  ext_rows (List.filter_eq_self.2 fun _ _ => rfl)

theorem values_keep (t : Table κ α) (test : α → Bool) :
    (t.keep fun row => test row.2).values = t.values.filter test :=
  List.filter_map.symm

theorem keys_foldl [BEq κ] [LawfulBEq κ] {β : Type} {step : Table κ α → β → Table κ α} (key : β → κ)
    (hstep : ∀ t item, (step t item).keys = if key item ∈ t.keys then t.keys else t.keys ++ [key item])
    (items : List β) : (items.foldl step empty).keys = (items.map key).eraseDups := by
  induction items using List.reverseRecOn with
  | nil => rfl
  | append_singleton items item ih =>
      rw [List.foldl_concat, hstep, ih, List.map_append, List.map_singleton, Order.eraseDups_concat]
      simp only [List.mem_eraseDups]

variable [DecidableEq κ]

theorem lookup_cons (rows : List (κ × α)) (k : κ) (v : α) (key : κ) :
    ((k, v) :: rows).lookup key = if key = k then some v else rows.lookup key := by
  by_cases h : key = k
  · subst h; simp
  · have hb : (key == k) = false := by simpa using h
    simp [List.lookup_cons, hb, h]

theorem lookup_eq_some_iff {rows : List (κ × α)} (hn : (rows.map (·.1)).Nodup) {key : κ} {value : α} :
    rows.lookup key = some value ↔ (key, value) ∈ rows := by
  induction rows with
  | nil => simp
  | cons row rows ih =>
      obtain ⟨k, v⟩ := row
      rw [List.map_cons, List.nodup_cons] at hn
      rw [lookup_cons]
      by_cases h : key = k
      · subst h
        have habsent : (key, value) ∉ rows := fun hmem => hn.1 (List.mem_map.2 ⟨_, hmem, rfl⟩)
        simp [habsent, eq_comm]
      · simp [ih hn.2, h]

theorem get?_eq_some_iff {t : Table κ α} {key : κ} {value : α} :
    t.get? key = some value ↔ (key, value) ∈ t.rows :=
  lookup_eq_some_iff t.nodup

theorem filter_key {rows : List (κ × α)} (hn : (rows.map (·.1)).Nodup) {key : κ} {value : α}
    (h : (key, value) ∈ rows) : (rows.filter fun row => row.1 = key) = [(key, value)] := by
  induction rows with
  | nil => cases h
  | cons row rows ih =>
      rw [List.map_cons, List.nodup_cons] at hn
      rcases List.mem_cons.1 h with rfl | h
      · have hrest : (rows.filter fun row => row.1 = key) = [] := by
          apply List.filter_eq_nil_iff.2
          intro other hother he
          exact hn.1 (List.mem_map.2 ⟨other, hother, by simpa using he⟩)
        simp [hrest]
      · have hne : row.1 ≠ key := fun he => hn.1 (List.mem_map.2 ⟨_, h, he.symm⟩)
        simp [hne, ih hn.2 h]

theorem mem_keys_iff {t : Table κ α} {key : κ} : key ∈ t.keys ↔ ∃ value, t.get? key = some value := by
  rw [← contains_iff, contains, Option.isSome_iff_exists]

theorem mem_values_iff {t : Table κ α} {value : α} :
    value ∈ t.values ↔ ∃ key, t.get? key = some value := by
  simp [values, get?_eq_some_iff]

@[simp] theorem get?_empty (key : κ) : (empty : Table κ α).get? key = none := rfl

theorem lookup_replaced (rows : List (κ × α)) (key other : κ) (value : α) :
    (replaced rows key value).lookup other =
      if other = key then (rows.lookup key).map fun _ => value else rows.lookup other := by
  induction rows with
  | nil => simp [replaced]
  | cons row rows ih =>
      obtain ⟨k, v⟩ := row
      rw [replaced] at ih
      rw [replaced, List.map_cons, lookup_cons, lookup_cons]
      by_cases hk : k = key
      · subst hk
        rw [if_pos rfl, if_pos rfl, lookup_cons, ih]
        by_cases ho : other = k <;> simp [ho]
      · rw [if_neg hk, if_neg (Ne.symm hk), lookup_cons, ih]
        by_cases ho : other = k
        · subst ho; simp [hk]
        · simp [ho]

theorem get?_put (t : Table κ α) (key other : κ) (value : α) :
    (t.put key value).get? other = if other = key then some value else t.get? other := by
  unfold put
  split
  · rename_i h
    obtain ⟨old, hold⟩ := Option.isSome_iff_exists.1 h
    have hfound : t.rows.lookup key = some old := hold
    simp only [get?, lookup_replaced, hfound, Option.map_some]
  · rename_i h
    have hnone : t.rows.lookup key = none := Option.not_isSome_iff_eq_none.1 h
    by_cases ho : other = key
    · subst ho; simp [get?, List.lookup_append, hnone]
    · simp [get?, List.lookup_append, lookup_cons, ho]

theorem rows_put {t : Table κ α} {key : κ} (h : t.get? key = none) (value : α) :
    (t.put key value).rows = t.rows ++ [(key, value)] := by
  unfold put
  split
  · rename_i hc
    rw [contains, h] at hc
    cases hc
  · rfl

theorem keys_put [BEq κ] [LawfulBEq κ] (t : Table κ α) (key : κ) (value : α) :
    (t.put key value).keys = if key ∈ t.keys then t.keys else t.keys ++ [key] := by
  split
  · rename_i h
    rw [put, dif_pos (contains_iff.2 h)]
    exact keys_replaced _ _ _
  · rename_i h
    rw [keys, rows_put (get?_eq_none_iff.2 h), List.map_append]
    rfl

theorem map_get?_keys (t : Table κ α) : t.keys.map t.get? = t.values.map some := by
  rw [keys, values, List.map_map, List.map_map]
  apply List.map_congr_left
  intro row hrow
  exact get?_eq_some_iff.2 hrow

theorem get?_keep (t : Table κ α) (test : κ × α → Bool) (key : κ) :
    (t.keep test).get? key = (t.get? key).filter fun value => test (key, value) := by
  apply Option.ext
  intro value
  rw [get?_eq_some_iff, Option.filter_eq_some_iff, get?_eq_some_iff]
  exact List.mem_filter

theorem get?_erase (t : Table κ α) (key other : κ) :
    (t.erase key).get? other = if other = key then none else t.get? other := by
  rw [erase, get?_keep]
  by_cases h : other = key
  · subst h; cases t.get? other <;> simp [Option.filter]
  · cases t.get? other <;> simp [Option.filter, h]

section

variable {t : Table κ α} {key : κ}

theorem values_put (h : t.get? key = none) (value : α) : (t.put key value).values = t.values ++ [value] := by
  rw [values, rows_put h, List.map_append]
  rfl

theorem erase_eq_self (h : t.get? key = none) : t.erase key = t := by
  apply ext_rows
  apply List.filter_eq_self.2
  intro row hrow
  have hne : row.1 ≠ key := fun he => get?_eq_none_iff.1 h (List.mem_map.2 ⟨row, hrow, he⟩)
  exact decide_eq_true hne

section

variable (test : α → Bool) (h : ∀ row ∈ t.rows, test row.2 = decide (row.1 = key))

include h

theorem filter_values : t.values.filter test = (t.get? key).toList := by
  have hrows : t.rows.filter (test ∘ (·.2)) = t.rows.filter fun row => row.1 = key := List.filter_congr h
  rw [values, List.filter_map, hrows]
  cases hget : t.get? key with
  | none =>
      have hnone : (t.rows.filter fun row => row.1 = key) = [] := by
        apply List.filter_eq_nil_iff.2
        intro row hrow he
        exact get?_eq_none_iff.1 hget (List.mem_map.2 ⟨row, hrow, of_decide_eq_true he⟩)
      rw [hnone]
      rfl
  | some value =>
      rw [filter_key t.nodup (get?_eq_some_iff.1 hget)]
      rfl

theorem values_erase : (t.erase key).values = t.values.filter fun value => !test value := by
  have hrows : (t.rows.filter fun row => row.1 ≠ key) = t.rows.filter fun row => !test row.2 :=
    List.filter_congr fun row hrow => by rw [h row hrow, decide_not]
  calc (t.erase key).values
      = (t.rows.filter fun row => row.1 ≠ key).map (·.2) := rfl
    _ = t.values.filter fun value => !test value := by
      rw [hrows, values, List.filter_map]
      rfl

end

end

end SecretAccess.Table
