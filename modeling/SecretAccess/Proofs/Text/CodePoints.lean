import Mathlib.Data.List.Pairwise
import SecretAccess.Proofs.Text.Order

namespace SecretAccess.Text

def codePoints (s : String) : List Nat := s.toList.map Char.toNat

def compareCodePoints (s t : String) : Ordering :=
  compare (codePoints s) (codePoints t)

theorem codePoints_inj {s t : String} (h : codePoints s = codePoints t) : s = t :=
  String.toList_injective (List.map_injective_iff.2 (fun _ _ => Char.toNat_inj.1) h)

instance : Std.OrientedCmp compareCodePoints where
  eq_swap := Std.OrientedOrd.eq_swap (α := List Nat)

instance : Std.TransCmp compareCodePoints where
  isLE_trans := Std.TransOrd.isLE_trans (α := List Nat)

instance : Std.LawfulEqCmp compareCodePoints where
  compare_self := Std.ReflOrd.compare_self (α := List Nat)
  eq_of_compare h := codePoints_inj (Std.LawfulEqOrd.eq_of_compare h)

def Swaps (c d : Char) : Prop := 0xE000 ≤ c.toNat ∧ c.toNat < 0x10000 ∧ 0x10000 ≤ d.toNat

inductive CharsCross : List Char → List Char → Prop
  | here {c d : Char} (cs ds : List Char) (swaps : Swaps c d) : CharsCross (c :: cs) (d :: ds)
  | there (c : Char) {cs ds : List Char} (rest : CharsCross cs ds) : CharsCross (c :: cs) (c :: ds)

def Crosses (s t : String) : Prop := CharsCross s.toList t.toList

instance (c d : Char) : Decidable (Swaps c d) := inferInstanceAs (Decidable (_ ∧ _ ∧ _))

theorem charsCross_cons_iff {c d : Char} {cs ds : List Char} :
    CharsCross (c :: cs) (d :: ds) ↔ Swaps c d ∨ c = d ∧ CharsCross cs ds := by
  constructor
  · intro h
    cases h with
    | here _ _ swaps => exact .inl swaps
    | there _ rest => exact .inr ⟨rfl, rest⟩
  · rintro (swaps | ⟨rfl, rest⟩)
    · exact .here cs ds swaps
    · exact .there c rest

instance CharsCross.decidable : (cs ds : List Char) → Decidable (CharsCross cs ds)
  | [], _ => isFalse fun h => nomatch h
  | _ :: _, [] => isFalse fun h => nomatch h
  | _ :: cs, _ :: ds =>
      have := CharsCross.decidable cs ds
      decidable_of_iff _ charsCross_cons_iff.symm

instance (s t : String) : Decidable (Crosses s t) := inferInstanceAs (Decidable (CharsCross _ _))

section

variable {a b : Nat} {as bs : List Nat}

theorem compare_cons_of_lt (h : a < b) (as bs : List Nat) : compare (a :: as) (b :: bs) = .lt := by
  rw [List.compare_cons_cons, Nat.compare_eq_lt.2 h]
  rfl

theorem compare_cons_of_gt (h : b < a) (as bs : List Nat) : compare (a :: as) (b :: bs) = .gt := by
  rw [List.compare_cons_cons, Nat.compare_eq_gt.2 h]
  rfl

theorem compare_cons_self (a : Nat) (as bs : List Nat) : compare (a :: as) (a :: bs) = compare as bs := by
  rw [List.compare_cons_cons, Std.ReflOrd.compare_self]
  rfl

theorem compare_append_self (us as bs : List Nat) : compare (us ++ as) (us ++ bs) = compare as bs := by
  induction us with
  | nil => rfl
  | cons u us ih => rw [List.cons_append, List.cons_append, compare_cons_self, ih]

end

section

variable {c d : Char} (us vs : List Nat)

theorem compare_charUnits_of_swaps (h : Swaps c d) : compare (charUnits c ++ us) (charUnits d ++ vs) = .gt := by
  obtain ⟨hhigh, hbasic, hbeyond⟩ := h
  rw [charUnits_of_lt hbasic, charUnits_of_le hbeyond]
  apply compare_cons_of_gt
  rcases toNat_lt_or_lt d with hd | hd <;> omega

theorem compare_charUnits_of_lt (hlt : c.toNat < d.toNat) (h : ¬Swaps c d) :
    compare (charUnits c ++ us) (charUnits d ++ vs) = .lt := by
  rcases Nat.lt_or_ge d.toNat 0x10000 with hd | hd
  · rw [charUnits_of_lt hd, charUnits_of_lt (Nat.lt_trans hlt hd)]
    exact compare_cons_of_lt hlt _ _
  rcases Nat.lt_or_ge c.toNat 0x10000 with hc | hc
  · rw [charUnits_of_lt hc, charUnits_of_le hd]
    apply compare_cons_of_lt
    -- a character of the basic plane below U+E000 is below the halves of all pairs
    have hlow : c.toNat < 0xE000 := Nat.lt_of_not_le fun hhigh => h ⟨hhigh, hc, hd⟩
    rcases toNat_lt_or_lt c with hc | hc <;> omega
  · rw [charUnits_of_le hc, charUnits_of_le hd]
    rcases Nat.lt_or_ge ((c.toNat - 0x10000) / 0x400) ((d.toNat - 0x10000) / 0x400) with hlead | hlead
    · exact compare_cons_of_lt (Nat.add_lt_add_left hlead _) _ _
    · have hsame : (c.toNat - 0x10000) / 0x400 = (d.toNat - 0x10000) / 0x400 := by omega
      rw [hsame]
      refine (compare_cons_self _ _ _).trans (compare_cons_of_lt ?_ _ _)
      omega

end

theorem compare_of_charsCross {cs ds : List Char} (h : CharsCross cs ds) :
    compare (cs.flatMap charUnits) (ds.flatMap charUnits) = .gt ∧
      compare (cs.map Char.toNat) (ds.map Char.toNat) = .lt := by
  induction h with
  | here cs ds swaps =>
      exact ⟨compare_charUnits_of_swaps _ _ swaps, compare_cons_of_lt (Nat.lt_of_lt_of_le swaps.2.1 swaps.2.2) _ _⟩
  | there c rest ih =>
      rw [List.flatMap_cons, List.flatMap_cons, compare_append_self, List.map_cons, List.map_cons, compare_cons_self]
      exact ih

theorem compare_of_not_charsCross {cs ds : List Char} (h : ¬CharsCross cs ds) (h' : ¬CharsCross ds cs) :
    compare (cs.flatMap charUnits) (ds.flatMap charUnits) = compare (cs.map Char.toNat) (ds.map Char.toNat) := by
  have hfirst {c d : Char} {cs ds : List Char} (hlt : c.toNat < d.toNat) (h : ¬CharsCross (c :: cs) (d :: ds)) :
      compare ((c :: cs).flatMap charUnits) ((d :: ds).flatMap charUnits) = .lt :=
    compare_charUnits_of_lt _ _ hlt fun swaps => h (.here cs ds swaps)
  induction cs generalizing ds with
  | nil =>
      cases ds with
      | nil => rfl
      | cons d ds =>
          obtain ⟨u, us, hunits⟩ := List.exists_cons_of_ne_nil (charUnits_ne_nil d)
          rw [List.flatMap_cons, hunits]
          rfl
  | cons c cs ih =>
      cases ds with
      | nil =>
          obtain ⟨u, us, hunits⟩ := List.exists_cons_of_ne_nil (charUnits_ne_nil c)
          rw [List.flatMap_cons, hunits]
          rfl
      | cons d ds =>
          rcases Nat.lt_trichotomy c.toNat d.toNat with hlt | heq | hgt
          · rw [hfirst hlt h, List.map_cons, List.map_cons, compare_cons_of_lt hlt]
          · cases Char.toNat_inj.1 heq
            rw [List.flatMap_cons, List.flatMap_cons, compare_append_self, List.map_cons, List.map_cons,
              compare_cons_self]
            exact ih (fun rest => h (.there c rest)) fun rest => h' (.there c rest)
          · rw [Std.OrientedOrd.eq_swap, hfirst hgt h', List.map_cons, List.map_cons, compare_cons_of_gt hgt]
            rfl

theorem compare_of_crosses {s t : String} (h : Crosses s t) :
    compareUnits s t = .gt ∧ compareCodePoints s t = .lt :=
  compare_of_charsCross h

theorem compareUnits_eq {s t : String} (h : ¬Crosses s t) (h' : ¬Crosses t s) :
    compareUnits s t = compareCodePoints s t :=
  compare_of_not_charsCross h h'

theorem not_crosses_self (s : String) : ¬Crosses s s := by
  intro h
  have hself : compareUnits s s = .eq := Std.ReflCmp.compare_self
  cases hself.symm.trans (compare_of_crosses h).1

section

variable {α : Type} {text : α → String} {rows : List α}

theorem not_crosses_of_ascending (hunits : rows.Pairwise fun a b => compareUnits (text a) (text b) = .lt)
    (hpoints : rows.Pairwise fun a b => compareCodePoints (text a) (text b) = .lt) :
    ∀ a ∈ rows, ∀ b ∈ rows, ¬Crosses (text a) (text b) := by
  have : Std.Symm fun a b => ¬Crosses (text a) (text b) ∧ ¬Crosses (text b) (text a) := ⟨fun _ _ => And.symm⟩
  have hneither : rows.Pairwise fun a b => ¬Crosses (text a) (text b) ∧ ¬Crosses (text b) (text a) := by
    refine (hunits.and hpoints).imp fun {a b} hlt => ⟨fun h => ?_, fun h => ?_⟩
    · cases hlt.1.symm.trans (compare_of_crosses h).1
    · exact Std.OrientedCmp.not_lt_of_lt hlt.2 (compare_of_crosses h).2
  intro a ha b hb
  exact (hneither.forall_of_forall (fun row _ => ⟨not_crosses_self _, not_crosses_self _⟩) ha hb).1

theorem ascending_of_not_crosses (hpoints : rows.Pairwise fun a b => compareCodePoints (text a) (text b) = .lt)
    (h : ∀ a ∈ rows, ∀ b ∈ rows, ¬Crosses (text a) (text b)) :
    rows.Pairwise fun a b => compareUnits (text a) (text b) = .lt := by
  apply hpoints.imp_of_mem
  intro a b ha hb hlt
  rw [compareUnits_eq (h a ha b hb) (h b hb a ha), hlt]

/-- The two orders agree on some rows exactly if no two of their texts cross. -/
theorem eq_iff_not_crosses {listed kept : List α} (hlisted : listed.Perm rows) (hkept : kept.Perm rows)
    (hpoints : listed.Pairwise fun a b => compareCodePoints (text a) (text b) = .lt)
    (hunits : kept.Pairwise fun a b => compareUnits (text a) (text b) = .lt) :
    listed = kept ↔ ∀ a ∈ rows, ∀ b ∈ rows, ¬Crosses (text a) (text b) := by
  constructor
  · rintro rfl a ha b hb
    exact not_crosses_of_ascending hunits hpoints a (hlisted.mem_iff.2 ha) b (hlisted.mem_iff.2 hb)
  · intro h
    have hascending := ascending_of_not_crosses hpoints fun a ha b hb =>
      h a (hlisted.mem_iff.1 ha) b (hlisted.mem_iff.1 hb)
    exact eq_of_ascending (hlisted.trans hkept.symm) hascending hunits

end

end SecretAccess.Text
