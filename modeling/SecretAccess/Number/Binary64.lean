namespace SecretAccess

/-- A finite number is `mantissa * 2 ^ exponent`. It is in standard form when the mantissa has 53
bits, or fewer at the least exponent, `-1074`. -/
inductive Binary64 where
  | nan
  | infinite (negative : Bool)
  | finite (negative : Bool) (mantissa : Nat) (exponent : Int)
  deriving DecidableEq, Repr, Inhabited

namespace Binary64

def leastExponent : Int := -1074
def greatestExponent : Int := 971

def zero : Binary64 := .finite false 0 leastExponent

def powerOfTwo (e : Int) : Nat × Nat :=
  (Nat.pow 2 e.toNat, Nat.pow 2 (-e).toNat)

def divideToEven (num den : Nat) : Nat :=
  let q := num / den
  let r := num % den
  if 2 * r < den then q
  else if den < 2 * r then q + 1
  else q + q % 2

def exponentOf (num den : Nat) : Int :=
  let e := max ((num.log2 : Int) - den.log2 - 53) leastExponent
  let (up, down) := powerOfTwo e
  if num * down / (den * up) < Nat.pow 2 53 then e else e + 1

def ofRatio (negative : Bool) (num den : Nat) : Binary64 :=
  if num = 0 ∨ den = 0 then .finite negative 0 leastExponent
  else
    let e := exponentOf num den
    let (up, down) := powerOfTwo e
    let m := divideToEven (num * down) (den * up)
    let (m, e) := if m = Nat.pow 2 53 then (Nat.pow 2 52, e + 1) else (m, e)
    if greatestExponent < e then .infinite negative else .finite negative m e

/-- The nearest number to `digits * 10 ^ exponent`. Exponents that are out of reach whatever the
digits are settled first. -/
def ofDecimal (negative : Bool) (digits : Nat) (exponent : Int) : Binary64 :=
  let magnitude : Int := (Nat.toDigits 10 digits).length + exponent
  if digits = 0 ∨ magnitude < -330 then .finite negative 0 leastExponent
  else if 310 < magnitude then .infinite negative
  else ofRatio negative (digits * Nat.pow 10 exponent.toNat) (Nat.pow 10 (-exponent).toNat)

def ofNat (n : Nat) : Binary64 :=
  ofRatio false n 1

def ofInt (n : Int) : Binary64 :=
  ofRatio (n < 0) n.natAbs 1

def isZero : Binary64 → Bool
  | .finite _ m _ => m = 0
  | _ => false

def isInteger : Binary64 → Bool
  | .finite _ m e => m % Nat.pow 2 (-e).toNat = 0
  | _ => false

def isPositive : Binary64 → Bool
  | .infinite negative => !negative
  | .finite negative m _ => !negative && m ≠ 0
  | .nan => false

def isBelow : Binary64 → Binary64 → Bool
  | nan, _ | _, nan => false
  | infinite a, infinite b => a && !b
  | infinite a, finite .. => a
  | finite .., infinite b => !b
  | finite a m e, finite b n f =>
      let signed (negative : Bool) (k : Nat) : Int := if negative then -(k : Int) else k
      signed a (m * Nat.pow 2 (e - min e f).toNat) < signed b (n * Nat.pow 2 (f - min e f).toNat)

def floor : Binary64 → Binary64
  | .finite negative m e =>
      let den := Nat.pow 2 (-e).toNat
      let num := m * Nat.pow 2 e.toNat
      ofRatio negative (if negative then (num + den - 1) / den else num / den) 1
  | n => n

def truncate : Binary64 → Option Int
  | .finite negative m e =>
      let n := m * Nat.pow 2 e.toNat / Nat.pow 2 (-e).toNat
      some (if negative then -(n : Int) else n)
  | _ => none

end Binary64

end SecretAccess
