import SecretAccess.Proofs.Order.Distinct
import SecretAccess.Proofs.Store.Journal

namespace SecretAccess.Table

variable {κ α : Type} [DecidableEq κ]

def lostKeys (t u : Table κ α) : List κ := t.keys.filter fun key => !u.contains key

/-- Of keys that were lost one after another those that a table has, each where it was lost first. -/
def firstLost (t : Table κ α) (lost : List κ) : List κ := (lost.filter t.contains).eraseDups

def movedLast (t : Table κ α) (keys : List κ) : List (κ × α) :=
  (t.rows.filter fun row => row.1 ∉ keys) ++ keys.filterMap fun key => (t.get? key).map (key, ·)

theorem mem_firstLost {t : Table κ α} {lost : List κ} {key : κ} :
    key ∈ t.firstLost lost ↔ key ∈ lost ∧ t.contains key = true := by
  rw [firstLost, List.mem_eraseDups, List.mem_filter]

theorem contains_put (t : Table κ α) (key other : κ) (value : α) :
    (t.put key value).contains other = (decide (other = key) || t.contains other) := by
  rw [contains, contains, get?_put]
  by_cases h : other = key <;> simp [h]

theorem contains_keep {t : Table κ α} (test : κ × α → Bool) {row : κ × α} (h : row ∈ t.rows) :
    (t.keep test).contains row.1 = test row := by
  have hold : t.get? row.1 = some row.2 := get?_eq_some_iff.2 h
  rw [contains, get?_keep, hold]
  cases htest : test row <;> simp [Option.filter, htest]

theorem lostKeys_put {t : Table κ α} (key : κ) (value : α) : t.lostKeys (t.put key value) = [] := by
  apply List.filter_eq_nil_iff.2
  intro other hother
  simp [contains_put, contains_iff.2 hother]

theorem lostKeys_keep (t : Table κ α) (test : κ × α → Bool) :
    t.lostKeys (t.keep test) = (t.rows.filter fun row => !test row).map (·.1) := by
  rw [lostKeys, keys, List.filter_map]
  congr 1
  apply List.filter_congr
  intro row hrow
  simp [contains_keep test hrow]

theorem firstLost_put {t : Table κ α} {key : κ} (absent : t.get? key = none) (value : α) (lost : List κ) :
    t.firstLost lost = ((t.put key value).firstLost lost).filter (· ≠ key) := by
  rw [firstLost, firstLost, ← Order.eraseDups_filter, List.filter_filter]
  congr 1
  apply List.filter_congr
  intro other _
  by_cases h : other = key
  · subst h; simp [contains, absent]
  · simp [contains_put, h]

theorem firstLost_keep (t : Table κ α) (test : κ × α → Bool) (lost : List κ) :
    t.firstLost (t.lostKeys (t.keep test) ++ lost) =
      t.lostKeys (t.keep test) ++ (t.keep test).firstLost lost := by
  have hlost : (t.lostKeys (t.keep test)).filter t.contains = t.lostKeys (t.keep test) := by
    apply List.filter_eq_self.2
    intro key hkey
    exact contains_iff.2 (List.mem_filter.1 hkey).1
  have hnodup : (t.lostKeys (t.keep test)).Nodup := t.nodup.sublist List.filter_sublist
  rw [firstLost, List.filter_append, hlost, List.eraseDups_append, Order.eraseDups_of_nodup hnodup, firstLost]
  congr 2
  rw [List.removeAll, List.filter_filter]
  apply List.filter_congr
  intro key _
  cases hkey : t.get? key with
  | none => simp [contains, get?_keep, hkey]
  | some value =>
      have hrow : (key, value) ∈ t.rows := get?_eq_some_iff.1 hkey
      have hin : key ∈ t.keys := mem_keys_iff.2 ⟨value, hkey⟩
      have hkept : (t.keep test).contains key = test (key, value) := contains_keep test hrow
      cases htest : test (key, value) <;>
        simp [lostKeys, contains_iff.2 hin, hin, hkept, htest]

theorem rows_rollBack_put {t r : Table κ α} {key : κ} (absent : t.get? key = none) (value : α)
    (lost : List κ)
    (hr : r.rows = (t.put key value).movedLast ((t.put key value).firstLost lost).reverse) :
    (r.rollBack [(key, none)]).rows = t.movedLast (t.firstLost lost).reverse := by
  have hstay : ∀ row ∈ t.rows, row.1 ≠ key := by
    intro row hrow he
    rw [← he, get?_eq_some_iff.2 hrow] at absent
    cases absent
  change r.rows.filter (·.1 ≠ key) = _
  rw [hr, movedLast, movedLast, List.filter_append, firstLost_put absent value lost]
  congr 1
  · rw [rows_put absent, List.filter_append, List.filter_append, List.filter_filter, List.filter_filter]
    have hnone : [(key, value)].filter (fun row => decide (row.1 ≠ key) &&
        decide (row.1 ∉ ((t.put key value).firstLost lost).reverse)) = [] := by simp
    rw [hnone, List.append_nil]
    apply List.filter_congr
    intro row hrow
    simp [hstay row hrow]
  · rw [List.filter_filterMap, ← List.filter_reverse, List.filterMap_filter]
    apply List.filterMap_congr
    intro other _
    by_cases h : other = key
    · subst h; simp [get?_put]
    · cases hother : t.get? other <;> simp [get?_put, h, hother]

theorem rows_rollBack_keep {t r : Table κ α} (test : κ × α → Bool) (lost : List κ)
    (hsame : ∀ key, r.get? key = (t.keep test).get? key)
    (hr : r.rows = (t.keep test).movedLast ((t.keep test).firstLost lost).reverse) :
    (r.rollBack ((t.rows.filter fun row => !test row).map fun row => (row.1, some row.2))).rows =
      t.movedLast (t.firstLost (t.lostKeys (t.keep test) ++ lost)).reverse := by
  have hnodup : ((t.rows.filter fun row => !test row).map (·.1)).Nodup :=
    t.nodup.sublist (List.filter_sublist.map _)
  have habsent : ∀ row ∈ t.rows.filter fun row => !test row, r.get? row.1 = none := by
    intro row hrow
    obtain ⟨hin, hout⟩ := List.mem_filter.1 hrow
    have hkept := contains_keep test hin
    rw [hsame, ← Option.not_isSome_iff_eq_none]
    change ¬(t.keep test).contains row.1 = true
    simpa [hkept] using hout
  rw [rows_rollBack_removed _ hnodup habsent, hr, firstLost_keep, List.reverse_append, movedLast, movedLast,
    List.filterMap_append, List.append_assoc]
  congr 1
  · change (t.rows.filter test).filter _ = _
    rw [List.filter_filter]
    apply List.filter_congr
    intro row hrow
    have hkept := contains_keep test hrow
    have hin : row.1 ∈ t.keys := List.mem_map_of_mem hrow
    cases htest : test row <;> simp [lostKeys, hkept, htest, hin]
  · congr 1
    · apply List.filterMap_congr
      intro key hkey
      have hin := (mem_firstLost.1 (List.mem_reverse.1 hkey)).2
      obtain ⟨value, hvalue⟩ := Option.isSome_iff_exists.1 hin
      have hold : t.get? key = some value := by
        rw [get?_keep] at hvalue
        exact (Option.filter_eq_some_iff.1 hvalue).1
      rw [hold, hvalue]
    · rw [lostKeys_keep, ← List.map_reverse, List.filterMap_map]
      have hback : ∀ row ∈ (t.rows.filter fun row => !test row).reverse,
          ((fun key => (t.get? key).map (key, ·)) ∘ (·.1)) row = some row := by
        intro row hrow
        have hold := get?_eq_some_iff.2 (List.mem_filter.1 (List.mem_reverse.1 hrow)).1
        simp [hold]
      rw [List.filterMap_congr hback, List.filterMap_some]

/-- Once all writes after a certain one are taken back, so that the rows they removed stand last, taking
this one back as well puts those that it removed behind them. -/
theorem Change.rows_rollBack {t u r : Table κ α} {journal : List (κ × Option α)} (h : Change t u journal)
    (lost : List κ) (hsame : ∀ key, r.get? key = u.get? key)
    (hr : r.rows = u.movedLast (u.firstLost lost).reverse) :
    (r.rollBack journal).rows = t.movedLast (t.firstLost (t.lostKeys u ++ lost)).reverse := by
  cases h with
  | put absent value =>
      rw [lostKeys_put, List.nil_append]
      exact rows_rollBack_put absent value lost hr
  | keep test => exact rows_rollBack_keep test lost hsame hr

@[simp] theorem movedLast_nil (t : Table κ α) : t.movedLast [] = t.rows := by
  simp [movedLast]

@[simp] theorem firstLost_nil (t : Table κ α) : t.firstLost [] = [] := rfl

end SecretAccess.Table
