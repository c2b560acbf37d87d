import Mathlib.Algebra.Order.Field.Power
import Mathlib.Algebra.Order.Field.Rat
import Mathlib.Tactic.Positivity
import SecretAccess.Number.Binary64

namespace SecretAccess.Binary64

def value? : Binary64 → Option ℚ
  | finite negative m e => some ((if negative then -1 else 1) * (m * 2 ^ e))
  | nan | infinite _ => none

def IsWhole (n : Binary64) : Prop := ∃ k : ℤ, n.value? = some (k : ℚ)

def IsPositive (n : Binary64) : Prop := n = infinite false ∨ ∃ q, n.value? = some q ∧ 0 < q

theorem exists_int_iff {m k : ℕ} {sign : ℤ} (hsign : sign = 1 ∨ sign = -1) :
    (∃ z : ℤ, (sign : ℚ) * (m * 2 ^ (-(k : ℤ))) = z) ↔ m % 2 ^ k = 0 := by
  have hpow : (2 : ℚ) ^ k ≠ 0 := by positivity
  have hscaled (z : ℤ) : (sign : ℚ) * (m * 2 ^ (-(k : ℤ))) = z ↔ sign * m = z * 2 ^ k := by
    rw [zpow_neg, zpow_natCast, ← mul_assoc, mul_inv_eq_iff_eq_mul₀ hpow]
    exact_mod_cast Iff.rfl
  simp only [hscaled, ← Nat.dvd_iff_mod_eq_zero]
  constructor
  · rintro ⟨z, hz⟩
    have hdvd : (2 : ℤ) ^ k ∣ sign * m := ⟨z, by rw [hz, mul_comm]⟩
    rcases hsign with rfl | rfl
    · rw [one_mul] at hdvd
      exact_mod_cast hdvd
    · rw [neg_one_mul, dvd_neg] at hdvd
      exact_mod_cast hdvd
  · rintro ⟨c, rfl⟩
    exact ⟨sign * c, by rw [Nat.cast_mul, Nat.cast_pow, mul_comm (((2 : ℕ) : ℤ) ^ k), mul_assoc]; rfl⟩

theorem isInteger_iff {n : Binary64} : n.isInteger = true ↔ n.IsWhole := by
  cases n with
  | nan | infinite => simp [isInteger, IsWhole, value?]
  | finite negative m e =>
      have hsign : ((if negative then -1 else 1 : ℤ) : ℚ) = if negative then -1 else 1 := by cases negative <;> rfl
      simp only [isInteger, IsWhole, value?, Option.some.injEq, decide_eq_true_eq, ← hsign]
      obtain ⟨k, rfl | rfl⟩ := e.eq_nat_or_neg
      · have hdvd : m % 2 ^ (-(k : ℤ)).toNat = 0 := by simp [Nat.mod_one]
        refine iff_of_true hdvd ⟨(if negative then -1 else 1) * (m * 2 ^ k), ?_⟩
        rw [zpow_natCast]
        push_cast
        rfl
      · rw [neg_neg, Int.toNat_natCast, exists_int_iff (by cases negative <;> simp)]
        rfl

theorem isPositive_iff {n : Binary64} : n.isPositive = true ↔ n.IsPositive := by
  cases n with
  | nan => simp [isPositive, IsPositive, value?]
  | infinite negative => cases negative <;> simp [isPositive, IsPositive, value?]
  | finite negative m e =>
      have hpow : (0 : ℚ) < 2 ^ e := by positivity
      cases negative with
      | true =>
          have hneg : ¬(0 : ℚ) < -1 * (m * 2 ^ e) := by
            rw [neg_one_mul, not_lt, neg_nonpos]
            positivity
          simpa [isPositive, IsPositive, value?] using hneg
      | false => simp [isPositive, IsPositive, value?, hpow, Nat.pos_iff_ne_zero]

theorem isWhole_and_isPositive_iff {n : Binary64} :
    n.IsWhole ∧ n.IsPositive ↔ ∃ k : ℕ, 0 < k ∧ n.value? = some (k : ℚ) := by
  constructor
  · rintro ⟨⟨z, hz⟩, hinfinite | ⟨q, hq, hpos⟩⟩
    · rw [hinfinite] at hz
      cases hz
    · rw [hz, Option.some.injEq] at hq
      rw [← hq, Int.cast_pos] at hpos
      obtain ⟨k, rfl⟩ := Int.eq_ofNat_of_zero_le hpos.le
      exact ⟨k, by omega, hz⟩
  · rintro ⟨k, hpos, hk⟩
    exact ⟨⟨k, hk⟩, .inr ⟨k, hk, Nat.cast_pos.2 hpos⟩⟩

end SecretAccess.Binary64
