import Mathlib.Tactic.SplitIfs
import SecretAccess.Document.Parser

namespace SecretAccess.Text

open Document

theorem digits?_hexDigit : ∀ n < 32, digits? 16 ['0', '0', hexDigit (n / 16), hexDigit (n % 16)] = some n := by
  decide

theorem escape?_control {c : Char} (h : c.toNat < 32) (rest : List Char) :
    escape? ('u' :: '0' :: '0' :: hexDigit (c.toNat / 16) :: hexDigit (c.toNat % 16) :: rest) = some (c, rest) := by
  have hunit : unit? ('0' :: '0' :: hexDigit (c.toNat / 16) :: hexDigit (c.toNat % 16) :: rest) =
      some (c.toNat, rest) := by
    rw [unit?, digits?_hexDigit _ h, Option.map_some]
  have hplain : c.toNat < 0xD800 := by omega
  simp [escape?, unitEscape?, hunit, hplain]

theorem quoted?_escapeChar (fuel : Nat) (c : Char) (rest : List Char) :
    quoted? (fuel + 1) (escapeChar c ++ rest) =
      (quoted? fuel rest).map fun read => (c :: read.1, read.2) := by
  have hnext : ((quoted? fuel rest).bind fun read => some (c :: read.1, read.2)) =
      (quoted? fuel rest).map fun read => (c :: read.1, read.2) := by
    cases quoted? fuel rest <;> rfl
  rw [← hnext]
  unfold escapeChar
  split_ifs with hquote hbackslash hb ht hn hf hr hcontrol
  · subst hquote; rfl
  · subst hbackslash; rfl
  · subst hb; rfl
  · subst ht; rfl
  · subst hn; rfl
  · subst hf; rfl
  · subst hr; rfl
  · change (escape? ('u' :: '0' :: '0' :: hexDigit (c.toNat / 16) :: hexDigit (c.toNat % 16) :: rest)).bind
      (fun first => (quoted? fuel first.2).bind fun read => some (first.1 :: read.1, read.2)) = _
    rw [escape?_control hcontrol]
    rfl
  · rw [List.singleton_append, quoted?]
    · simp [hcontrol]
    · exact hquote
    · exact hbackslash

theorem quoted?_escape {fuel : Nat} {cs : List Char} (h : cs.length < fuel) (rest : List Char) :
    quoted? fuel (escape cs ++ '"' :: rest) = some (cs, rest) := by
  induction cs generalizing fuel with
  | nil =>
      cases fuel with
      | zero => cases h
      | succ fuel => rfl
  | cons c cs ih =>
      cases fuel with
      | zero => cases h
      | succ fuel =>
          have hrest := ih (Nat.lt_of_succ_lt_succ h)
          rw [escape] at hrest
          rw [escape, List.flatMap_cons, List.append_assoc, quoted?_escapeChar, hrest]
          rfl

theorem escape_append_inj {cs ds us vs : List Char} (h : escape cs ++ '"' :: us = escape ds ++ '"' :: vs) :
    cs = ds ∧ us = vs := by
  have hc : quoted? (cs.length + ds.length + 1) (escape cs ++ '"' :: us) = some (cs, us) :=
    quoted?_escape (by omega) us
  rw [h, quoted?_escape (by omega)] at hc
  obtain ⟨hd, hv⟩ := Prod.mk.inj (Option.some.inj hc)
  exact ⟨hd.symm, hv.symm⟩

end SecretAccess.Text
