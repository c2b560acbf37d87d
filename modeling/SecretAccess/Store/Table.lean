namespace SecretAccess

/-- Rows under keys, in the order in which the keys arrived. A new key goes last, a row put under a present
key keeps its place, and a key that was erased and put again goes last. -/
structure Table (κ α : Type) where
  rows : List (κ × α)
  nodup : (rows.map (·.1)).Nodup
  deriving DecidableEq

namespace Table

variable {κ α : Type}

def empty : Table κ α := ⟨[], .nil⟩

instance : Inhabited (Table κ α) := ⟨empty⟩

def keys (t : Table κ α) : List κ := t.rows.map (·.1)

def values (t : Table κ α) : List α := t.rows.map (·.2)

def size (t : Table κ α) : Nat := t.rows.length

variable [DecidableEq κ]

def get? (t : Table κ α) (key : κ) : Option α := t.rows.lookup key

def contains (t : Table κ α) (key : κ) : Bool := (t.get? key).isSome

theorem lookup_eq_none_iff {rows : List (κ × α)} {key : κ} :
    rows.lookup key = none ↔ key ∉ rows.map (·.1) := by
  induction rows with
  | nil => simp
  | cons row rows ih =>
      obtain ⟨k, v⟩ := row
      by_cases h : key = k
      · subst h; simp
      · have hb : (key == k) = false := by simpa using h
        simp [List.lookup_cons, hb, ih, h]

theorem get?_eq_none_iff {t : Table κ α} {key : κ} : t.get? key = none ↔ key ∉ t.keys :=
  lookup_eq_none_iff

theorem contains_iff {t : Table κ α} {key : κ} : t.contains key = true ↔ key ∈ t.keys := by
  rw [contains, Option.isSome_iff_ne_none, ne_eq, get?_eq_none_iff, Classical.not_not]

theorem contains_eq_false_iff {t : Table κ α} {key : κ} :
    t.contains key = false ↔ key ∉ t.keys := by
  rw [← contains_iff, Bool.not_eq_true]

def replaced (rows : List (κ × α)) (key : κ) (value : α) : List (κ × α) :=
  rows.map fun row => if row.1 = key then (key, value) else row

theorem keys_replaced (rows : List (κ × α)) (key : κ) (value : α) :
    (replaced rows key value).map (·.1) = rows.map (·.1) := by
  rw [replaced, List.map_map]
  apply List.map_congr_left
  intro row _
  by_cases h : row.1 = key <;> simp [h]

def put (t : Table κ α) (key : κ) (value : α) : Table κ α :=
  if h : t.contains key = true then
    ⟨replaced t.rows key value, by rw [keys_replaced]; exact t.nodup⟩
  else ⟨t.rows ++ [(key, value)], by
    have hk : key ∉ t.rows.map (·.1) := contains_eq_false_iff.1 (Bool.not_eq_true _ ▸ h)
    rw [List.map_append, List.nodup_append]
    refine ⟨t.nodup, by simp, ?_⟩
    intro k hmem l hl
    simp only [List.map_cons, List.map_nil, List.mem_singleton] at hl
    subst hl
    exact fun he => hk (he ▸ hmem)⟩

def keep (t : Table κ α) (test : κ × α → Bool) : Table κ α :=
  ⟨t.rows.filter test, t.nodup.sublist (List.filter_sublist.map _)⟩

def erase (t : Table κ α) (key : κ) : Table κ α :=
  t.keep (·.1 ≠ key)

end Table

end SecretAccess
