import SecretAccess.Proofs.Store.Table
import SecretAccess.Store.Basic

namespace SecretAccess.Table

variable {κ α : Type} [DecidableEq κ]

def rollBack (t : Table κ α) (journal : List (κ × Option α)) : Table κ α :=
  journal.foldr (fun entry t => Undo.restored t entry.1 entry.2) t

/-- What a write does to a table, and its journal. -/
inductive Change : Table κ α → Table κ α → List (κ × Option α) → Prop
  | put {t : Table κ α} {key : κ} (absent : t.get? key = none) (value : α) :
      Change t (t.put key value) [(key, none)]
  | keep (t : Table κ α) (test : κ × α → Bool) :
      Change t (t.keep test) ((t.rows.filter fun row => !test row).map fun row => (row.1, some row.2))

theorem Change.refl (t : Table κ α) : Change t t [] := by
  have h := Change.keep t fun _ => true
  rwa [keep_true, Bool.not_true, List.filter_false] at h

theorem Change.erase {t : Table κ α} {key : κ} {row : α} (h : t.get? key = some row) :
    Change t (t.erase key) [(key, some row)] := by
  have hlost : (t.rows.filter fun row => !decide (row.1 ≠ key)) = [(key, row)] := by
    simpa using filter_key t.nodup (get?_eq_some_iff.1 h)
  have hkeep := Change.keep t fun row => decide (row.1 ≠ key)
  rw [hlost] at hkeep
  exact hkeep

theorem rollBack_append (t : Table κ α) (first second : List (κ × Option α)) :
    t.rollBack (first ++ second) = (t.rollBack second).rollBack first :=
  List.foldr_append

theorem get?_restored (t : Table κ α) (key other : κ) (before : Option α) :
    (Undo.restored t key before).get? other = if other = key then before else t.get? other := by
  cases before with
  | none => exact get?_erase t key other
  | some value => exact get?_put t key other value

theorem get?_rollBack (t : Table κ α) (journal : List (κ × Option α)) (key : κ) :
    (t.rollBack journal).get? key = (journal.lookup key).getD (t.get? key) := by
  induction journal with
  | nil => rfl
  | cons entry journal ih =>
      obtain ⟨k, before⟩ := entry
      rw [lookup_cons]
      by_cases h : key = k
      · subst h
        simp [rollBack, get?_restored]
      · simpa [rollBack, get?_restored, h] using ih

theorem Change.lookup_of_eq {t u : Table κ α} {journal : List (κ × Option α)} (h : Change t u journal)
    {key : κ} (hsame : u.get? key = t.get? key) : journal.lookup key = none := by
  rw [lookup_eq_none_iff]
  cases h with
  | put absent value =>
      intro hmem
      simp only [List.map_cons, List.map_nil, List.mem_singleton] at hmem
      subst hmem
      simp [get?_put, absent] at hsame
  | keep test =>
      intro hmem
      obtain ⟨_, hentry, rfl⟩ := List.mem_map.1 hmem
      obtain ⟨row, hrow, rfl⟩ := List.mem_map.1 hentry
      obtain ⟨hin, hout⟩ := List.mem_filter.1 hrow
      have hold : t.get? row.1 = some row.2 := get?_eq_some_iff.2 hin
      have htest : test row = false := by simpa using hout
      simp [get?_keep, hold, Option.filter, htest] at hsame

theorem Change.lookup_of_ne {t u : Table κ α} {journal : List (κ × Option α)} (h : Change t u journal)
    {key : κ} (hdiff : u.get? key ≠ t.get? key) : journal.lookup key = some (t.get? key) := by
  cases h with
  | @put k absent value =>
      by_cases hk : key = k
      · subst hk; simp [absent]
      · simp [get?_put, hk] at hdiff
  | keep test =>
      rw [get?_keep] at hdiff
      cases hold : t.get? key with
      | none => simp [hold] at hdiff
      | some value =>
          have htest : test (key, value) = false := by
            simpa [hold, Option.filter] using hdiff
          have hnodup : ((t.rows.filter fun row => !test row).map (·.1)).Nodup :=
            t.nodup.sublist (List.filter_sublist.map _)
          rw [lookup_eq_some_iff]
          · exact List.mem_map.2 ⟨(key, value), List.mem_filter.2 ⟨get?_eq_some_iff.1 hold, by simp [htest]⟩, rfl⟩
          · simpa [List.map_map, Function.comp_def] using hnodup

theorem Change.get?_rollBack {t u r : Table κ α} {journal : List (κ × Option α)} (h : Change t u journal)
    (hr : ∀ key, r.get? key = u.get? key) (key : κ) : (r.rollBack journal).get? key = t.get? key := by
  rw [Table.get?_rollBack, hr]
  by_cases hsame : u.get? key = t.get? key
  · rw [h.lookup_of_eq hsame, hsame]; rfl
  · rw [h.lookup_of_ne hsame]; rfl

theorem rows_rollBack_removed {r : Table κ α} (rows : List (κ × α)) (hn : (rows.map (·.1)).Nodup)
    (hr : ∀ row ∈ rows, r.get? row.1 = none) :
    (r.rollBack (rows.map fun row => (row.1, some row.2))).rows = r.rows ++ rows.reverse := by
  induction rows with
  | nil => simp [rollBack]
  | cons row rows ih =>
      rw [List.map_cons, List.nodup_cons] at hn
      have hrest := ih hn.2 fun other h => hr other (List.mem_cons_of_mem _ h)
      have hfree : (r.rollBack (rows.map fun row => (row.1, some row.2))).get? row.1 = none := by
        have hlookup : (rows.map fun row => (row.1, some row.2)).lookup row.1 = none := by
          rw [lookup_eq_none_iff, List.map_map]
          exact hn.1
        rw [Table.get?_rollBack, hlookup]
        exact hr row List.mem_cons_self
      calc (r.rollBack ((row :: rows).map fun row => (row.1, some row.2))).rows
          = ((r.rollBack (rows.map fun row => (row.1, some row.2))).put row.1 row.2).rows := rfl
        _ = r.rows ++ (row :: rows).reverse := by
          rw [rows_put hfree, hrest, List.reverse_cons, List.append_assoc]

end SecretAccess.Table
