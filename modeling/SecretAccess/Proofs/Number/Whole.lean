import Mathlib.Algebra.Group.Nat.Defs
import Mathlib.Data.List.Basic
import SecretAccess.Number.Literal

namespace SecretAccess

theorem isDigit_iff {c : Char} : isDigit c = true ↔ 48 ≤ c.toNat ∧ c.toNat ≤ 57 := by
  simp only [isDigit, Bool.and_eq_true, decide_eq_true_iff]
  exact Iff.rfl

theorem isDigit_of_isDigit {c : Char} (h : c.isDigit = true) : isDigit c = true := by
  simp only [Char.isDigit, Bool.and_eq_true, decide_eq_true_iff] at h
  exact isDigit_iff.2 h

theorem digitValue?_of_isDigit {c : Char} (h : isDigit c = true) : digitValue? 10 c = some (c.toNat - 48) := by
  have hrange : '0' ≤ c ∧ c ≤ '9' := by simpa [isDigit] using h
  have hlt : c.toNat - 48 < 10 := by
    have hcode := isDigit_iff.1 h
    omega
  simp only [digitValue?, if_pos hrange, if_pos hlt]

variable {cs : List Char}

theorem digits?_of_isDigit (h : ∀ c ∈ cs, isDigit c = true) : digits? 10 cs = some (Nat.ofDigitChars 10 cs 0) := by
  have hfold (n : Nat) : cs.foldlM (fun n c => (digitValue? 10 c).map (n * 10 + ·)) n =
      some (Nat.ofDigitChars 10 cs n) := by
    induction cs generalizing n with
    | nil => rfl
    | cons c cs ih =>
        have hvalue := digitValue?_of_isDigit (h c List.mem_cons_self)
        rw [List.foldlM_cons, hvalue, Nat.ofDigitChars_cons, Nat.mul_comm 10 n]
        exact ih (fun d hd => h d (List.mem_cons_of_mem _ hd)) (n * 10 + (c.toNat - 48))
  exact hfold 0

theorem trim_of_isDigit (h : ∀ c ∈ cs, isDigit c = true) : Text.trim cs = cs := by
  have hblank {c : Char} (hc : isDigit c = true) : Text.isBlank c = false := by
    have hrange := isDigit_iff.1 hc
    simp [Text.isBlank]
    omega
  have hkept {ds : List Char} (hds : ∀ c ∈ ds, isDigit c = true) : ds.dropWhile Text.isBlank = ds := by
    cases ds with
    | nil => rfl
    | cons c ds => rw [List.dropWhile_cons_of_neg (by rw [hblank (hds c List.mem_cons_self)]; decide)]
  rw [Text.trim, hkept h, hkept fun c hc => h c (List.mem_reverse.1 hc), List.reverse_reverse]

namespace Binary64

theorem unsignedDecimal?_of_isDigit (negative : Bool) (hne : cs ≠ []) (h : ∀ c ∈ cs, isDigit c = true) :
    unsignedDecimal? negative cs = some (ofDecimal negative (Nat.ofDigitChars 10 cs 0) 0) := by
  have htake : (cs ++ []).takeWhile isDigit = cs ++ [] := List.takeWhile_append_of_pos h
  have hdrop : (cs ++ []).dropWhile isDigit = [] := List.dropWhile_append_of_pos h
  rw [List.append_nil] at htake hdrop
  simp [unsignedDecimal?, htake, hdrop, hne, digits?_of_isDigit h, power?]

theorem decimal?_of_isDigit (hne : cs ≠ []) (h : ∀ c ∈ cs, isDigit c = true) :
    decimal? cs = some (ofDecimal false (Nat.ofDigitChars 10 cs 0) 0) := by
  have hinfinity : cs ≠ "Infinity".toList := by
    rintro rfl
    exact absurd (h 'I' (by decide)) (by decide)
  unfold decimal?
  split
  next hsign =>
    split at hsign
    case h_1 => exact absurd (h '-' List.mem_cons_self) (by decide)
    case h_2 => exact absurd (h '+' List.mem_cons_self) (by decide)
    case h_3 =>
      obtain ⟨rfl, rfl⟩ := Prod.mk.inj hsign
      rw [if_neg hinfinity]
      exact unsignedDecimal?_of_isDigit false hne h

theorem ofText_of_isDigit {s : String} (hne : s.toList ≠ []) (h : ∀ c ∈ s.toList, isDigit c = true) :
    ofText s = ofDecimal false (Nat.ofDigitChars 10 s.toList 0) 0 := by
  have hsecond {c d : Char} {ds : List Char} (hs : s.toList = c :: d :: ds) : isDigit d = true :=
    h d (hs ▸ List.mem_cons_of_mem _ List.mem_cons_self)
  unfold ofText
  rw [trim_of_isDigit h]
  split
  case h_1 hs => exact absurd hs hne
  case h_8 => rw [decimal?_of_isDigit hne h, Option.getD_some]
  all_goals exact absurd (hsecond ‹_›) (by decide)

theorem greatestExponent_lt {n : Nat} (h : 10 ^ 310 ≤ n) : greatestExponent < exponentOf n 1 := by
  have hpow : 2 ^ (205 * 5) ≤ 10 ^ 310 := by
    have hsmall : (2 ^ 205) ^ 5 ≤ (10 ^ 62) ^ 5 := Nat.pow_le_pow_left (by decide) 5
    rw [← Nat.pow_mul, ← Nat.pow_mul] at hsmall
    have hexponent : 62 * 5 = 310 := rfl
    rwa [hexponent] at hsmall
  have hne : n ≠ 0 := Nat.ne_of_gt (Nat.lt_of_lt_of_le (Nat.pow_pos (by decide)) h)
  have hlog : 205 * 5 ≤ n.log2 := (Nat.le_log2 hne).2 (Nat.le_trans hpow h)
  have hone : (1 : Nat).log2 = 0 := by decide
  simp only [exponentOf, greatestExponent, leastExponent, hone]
  split <;> omega

theorem ofNat_eq_infinite {n : Nat} (h : 10 ^ 310 ≤ n) : ofNat n = .infinite false := by
  have hne : n ≠ 0 := Nat.ne_of_gt (Nat.lt_of_lt_of_le (Nat.pow_pos (by decide)) h)
  have hexponent := greatestExponent_lt h
  rw [ofNat, ofRatio, if_neg (by simp [hne])]
  by_cases hm : divideToEven (n * (powerOfTwo (exponentOf n 1)).2) (1 * (powerOfTwo (exponentOf n 1)).1) =
      Nat.pow 2 53
  · simp only [if_pos hm]
    exact if_pos (Int.lt_add_one_of_le (Int.le_of_lt hexponent))
  · simp only [if_neg hm]
    exact if_pos hexponent

theorem ofDecimal_zero (n : Nat) : ofDecimal false n 0 = ofNat n := by
  have hlength : (Nat.toDigits 10 n).length ≤ 310 ↔ n < 10 ^ 310 :=
    Nat.length_toDigits_le_iff (by decide) (by decide)
  rw [ofDecimal]
  split
  next h =>
    have hzero : n = 0 := by omega
    rw [hzero]
    rfl
  next =>
    split
    next h =>
      have hlarge : ¬(Nat.toDigits 10 n).length ≤ 310 := by omega
      rw [ofNat_eq_infinite (Nat.le_of_not_lt (mt hlength.2 hlarge))]
    next =>
      rw [ofNat]
      congr 1
      exact Nat.mul_one n

theorem ofText_toString (n : Nat) : ofText (toString n) = ofNat n := by
  have hlist : (toString n).toList = Nat.toDigits 10 n := by
    rw [Nat.toString_eq_ofList_toDigits, String.toList_ofList]
  have hdigits : ∀ c ∈ Nat.toDigits 10 n, isDigit c = true := fun c hc => by
    apply isDigit_of_isDigit
    exact Nat.isDigit_of_mem_toDigits (by decide) (by decide) hc
  rw [ofText_of_isDigit (by rw [hlist]; exact Nat.toDigits_ne_nil) (by rwa [hlist]), hlist,
    Nat.ofDigitChars_ten_toDigits, ofDecimal_zero]

end Binary64

end SecretAccess
