import Mathlib.Data.List.Sort
import SecretAccess.Text.Units

namespace SecretAccess.Text

theorem toNat_lt_or_lt (c : Char) : c.toNat < 0xD800 ∨ 0xDFFF < c.toNat ∧ c.toNat < 0x110000 :=
  c.valid

theorem charUnits_of_lt {c : Char} (h : c.toNat < 0x10000) : charUnits c = [c.toNat] := by
  rw [charUnits, if_pos h]

theorem charUnits_of_le {c : Char} (h : 0x10000 ≤ c.toNat) :
    charUnits c = [0xD800 + (c.toNat - 0x10000) / 0x400, 0xDC00 + (c.toNat - 0x10000) % 0x400] := by
  rw [charUnits, if_neg (Nat.not_lt.2 h)]

/-- The first unit of a pair is not the unit of any character by itself. -/
theorem toNat_ne_lead {c d : Char} (hd : 0x10000 ≤ d.toNat) :
    c.toNat ≠ 0xD800 + (d.toNat - 0x10000) / 0x400 := by
  rcases toNat_lt_or_lt c with hc | hc <;> rcases toNat_lt_or_lt d with hd' | hd' <;> omega

theorem charUnits_append_inj {c d : Char} {us vs : List Nat} (h : charUnits c ++ us = charUnits d ++ vs) :
    c = d ∧ us = vs := by
  rcases Nat.lt_or_ge c.toNat 0x10000 with hc | hc <;> rcases Nat.lt_or_ge d.toNat 0x10000 with hd | hd
  · rw [charUnits_of_lt hc, charUnits_of_lt hd] at h
    obtain ⟨hunit, hrest⟩ := List.cons.inj h
    exact ⟨Char.toNat_inj.1 hunit, hrest⟩
  · rw [charUnits_of_lt hc, charUnits_of_le hd] at h
    exact absurd (List.cons.inj h).1 (toNat_ne_lead hd)
  · rw [charUnits_of_le hc, charUnits_of_lt hd] at h
    exact absurd (List.cons.inj h).1.symm (toNat_ne_lead hc)
  · rw [charUnits_of_le hc, charUnits_of_le hd] at h
    obtain ⟨hlead, h⟩ := List.cons.inj h
    obtain ⟨htrail, hrest⟩ := List.cons.inj h
    refine ⟨Char.toNat_inj.1 ?_, hrest⟩
    omega

theorem charUnits_ne_nil (c : Char) : charUnits c ≠ [] := by
  unfold charUnits
  split <;> simp

theorem flatMap_charUnits_inj {cs ds : List Char} (h : cs.flatMap charUnits = ds.flatMap charUnits) : cs = ds := by
  induction cs generalizing ds with
  | nil =>
      cases ds with
      | nil => rfl
      | cons d ds => simp [charUnits_ne_nil] at h
  | cons c cs ih =>
      cases ds with
      | nil => simp [charUnits_ne_nil] at h
      | cons d ds =>
          rw [List.flatMap_cons, List.flatMap_cons] at h
          obtain ⟨rfl, hrest⟩ := charUnits_append_inj h
          rw [ih hrest]

theorem units_inj {s t : String} (h : units s = units t) : s = t :=
  String.toList_injective (flatMap_charUnits_inj h)

instance : Std.OrientedCmp compareUnits where
  eq_swap := Std.OrientedOrd.eq_swap (α := List Nat)

instance : Std.TransCmp compareUnits where
  isLE_trans := Std.TransOrd.isLE_trans (α := List Nat)

instance : Std.LawfulEqCmp compareUnits where
  compare_self := Std.ReflOrd.compare_self (α := List Nat)
  eq_of_compare h := units_inj (Std.LawfulEqOrd.eq_of_compare h)

theorem compare_eq_lt_iff {us vs : List Nat} : compare us vs = .lt ↔ us < vs := by
  induction us generalizing vs with
  | nil => cases vs <;> simp
  | cons u us ih =>
      cases vs with
      | nil => simp
      | cons v vs =>
          rw [List.compare_cons_cons, Ordering.then_eq_lt, Nat.compare_eq_lt, Nat.compare_eq_eq, ih,
            List.cons_lt_cons_iff]

theorem compareUnits_eq_lt_iff {s t : String} : compareUnits s t = .lt ↔ units s < units t :=
  compare_eq_lt_iff

theorem sortBy_perm {α : Type} (text : α → String) (rows : List α) : (sortBy text rows).Perm rows :=
  List.mergeSort_perm rows _

theorem eq_of_asymm {α : Type} {before : α → α → Prop} (hasymm : ∀ a b, before a b → ¬before b a)
    {rows others : List α} (h : rows.Pairwise before) (h' : others.Pairwise before)
    (hmem : ∀ row, row ∈ rows ↔ row ∈ others) : rows = others := by
  have : Std.Irrefl before := ⟨fun a ha => hasymm a a ha ha⟩
  have : Std.Antisymm before := ⟨fun a b hab hba => absurd hba (hasymm a b hab)⟩
  exact h.eq_of_mem_iff h' hmem

section

variable {cmp : String → String → Ordering} {α : Type} {text : α → String} {rows others : List α}

theorem eq_of_ascending [Std.OrientedCmp cmp] (hperm : rows.Perm others)
    (h : rows.Pairwise fun a b => cmp (text a) (text b) = .lt)
    (h' : others.Pairwise fun a b => cmp (text a) (text b) = .lt) : rows = others :=
  eq_of_asymm (fun _ _ => Std.OrientedCmp.not_lt_of_lt) h h' fun _ => hperm.mem_iff

theorem ascending_of_isLE [Std.LawfulEqCmp cmp] (h : rows.Pairwise fun a b => (cmp (text a) (text b)).isLE = true)
    (hdistinct : (rows.map text).Nodup) : rows.Pairwise fun a b => cmp (text a) (text b) = .lt := by
  refine (h.and (List.pairwise_map.1 hdistinct)).imp fun {a b} hab => ?_
  obtain ⟨hle, hne⟩ := hab
  cases hcompare : cmp (text a) (text b) with
  | lt => rfl
  | eq => exact absurd (Std.LawfulEqCmp.eq_of_compare hcompare) hne
  | gt => rw [hcompare] at hle; cases hle

theorem compare_eq_then [Std.TransCmp cmp] {r s t : String} (hrs : (cmp r s).isLE = true)
    (hst : (cmp s t).isLE = true) : cmp r t = (cmp r s).then (cmp s t) := by
  cases h : cmp r s with
  | lt => exact Std.TransCmp.lt_of_lt_of_isLE h hst
  | eq => exact Std.TransCmp.congr_left h
  | gt => rw [h] at hrs; cases hrs

theorem isLE_trans_on [Std.TransCmp cmp] (text : α → String) (a b c : α)
    (hab : (cmp (text a) (text b)).isLE = true) (hbc : (cmp (text b) (text c)).isLE = true) :
    (cmp (text a) (text c)).isLE = true :=
  Std.TransCmp.isLE_trans hab hbc

theorem isLE_total_on [Std.OrientedCmp cmp] (text : α → String) (a b : α) :
    ((cmp (text a) (text b)).isLE || (cmp (text b) (text a)).isLE) = true := by
  rw [Bool.or_eq_true]
  cases hab : cmp (text a) (text b) with
  | gt => exact .inr (Ordering.isLE_of_eq_lt (Std.OrientedCmp.lt_of_gt hab))
  | lt | eq => exact .inl rfl

theorem mergeSort_stable [Std.TransCmp cmp] [Std.LawfulEqCmp cmp] {before : α → α → Prop}
    (h : rows.Pairwise before) :
    (rows.mergeSort fun a b => (cmp (text a) (text b)).isLE).Pairwise fun a b =>
      cmp (text a) (text b) = .lt ∨ text a = text b ∧ before a b := by
  let le (a b : α) : Bool := (cmp (text a) (text b)).isLE
  -- the rows are sorted together with their places, which decide between equal texts
  let placed := rows.zipIdx.mergeSort (List.zipIdxLE le)
  have hperm : placed.Perm rows.zipIdx := List.mergeSort_perm _ _
  have hle : placed.Pairwise fun a b => List.zipIdxLE le a b = true :=
    List.pairwise_mergeSort (List.zipIdxLE_trans (isLE_trans_on text)) (List.zipIdxLE_total (isLE_total_on text)) _
  have hdistinct : placed.Pairwise fun a b => a.2 ≠ b.2 := by
    apply List.pairwise_map.1
    apply (hperm.map Prod.snd).nodup_iff.2
    rw [List.zipIdx_map_snd]
    exact List.nodup_range'
  have hplaced : placed.map (·.1) = rows.mergeSort le := List.mergeSort_zipIdx
  change (rows.mergeSort le).Pairwise _
  rw [← hplaced, List.pairwise_map]
  apply (hle.and hdistinct).imp_of_mem
  rintro ⟨a, i⟩ ⟨b, j⟩ ha hb ⟨hle, hne⟩
  obtain ⟨hi, hai⟩ := List.getElem?_eq_some_iff.1 (List.mem_zipIdx_iff_getElem?.1 (hperm.mem_iff.1 ha))
  obtain ⟨hj, hbj⟩ := List.getElem?_eq_some_iff.1 (List.mem_zipIdx_iff_getElem?.1 (hperm.mem_iff.1 hb))
  simp only [List.zipIdxLE] at hle
  dsimp only at hai hbj hne hle ⊢
  split at hle
  · rename_i hab
    split at hle
    · rename_i hba
      have htext : text a = text b := Std.LawfulEqCmp.eq_of_compare (Std.OrientedCmp.isLE_antisymm hab hba)
      have hij : i < j := Nat.lt_of_le_of_ne (of_decide_eq_true hle) hne
      exact .inr ⟨htext, hai ▸ hbj ▸ List.pairwise_iff_getElem.1 h i j hi hj hij⟩
    · rename_i hba
      exact .inl (Std.OrientedCmp.lt_of_not_isLE hba)
  · cases hle

theorem mergeSort_ascending [Std.TransCmp cmp] [Std.LawfulEqCmp cmp] (h : (rows.map text).Nodup) :
    (rows.mergeSort fun a b => (cmp (text a) (text b)).isLE).Pairwise fun a b => cmp (text a) (text b) = .lt := by
  apply (mergeSort_stable (List.pairwise_map.1 h)).imp
  rintro a b (hlt | ⟨htext, hne⟩)
  · exact hlt
  · exact absurd htext hne

theorem sortBy_stable {before : α → α → Prop} (h : rows.Pairwise before) :
    (sortBy text rows).Pairwise fun a b =>
      compareUnits (text a) (text b) = .lt ∨ text a = text b ∧ before a b :=
  mergeSort_stable h

theorem sortBy_ascending (h : (rows.map text).Nodup) :
    (sortBy text rows).Pairwise fun a b => compareUnits (text a) (text b) = .lt :=
  mergeSort_ascending h

theorem sortBy_of_pairwise (h : rows.Pairwise fun a b => compareUnits (text a) (text b) = .lt ∨ text a = text b) :
    sortBy text rows = rows := by
  apply List.mergeSort_of_pairwise
  apply h.imp
  rintro a b (hlt | htext)
  · exact Ordering.isLE_of_eq_lt hlt
  · rw [htext]
    exact Ordering.isLE_of_eq_eq Std.ReflCmp.compare_self

end

end SecretAccess.Text
