import SecretAccess.Number.Binary64

namespace SecretAccess.Binary64

/-- A positive decimal `digits * 10 ^ (point - k)`, where `k` is how many digits there are. -/
structure Decimal where
  digits : List Char
  point : Int
  deriving DecidableEq, Repr

/-- The numbers between the two middles to its neighbours read as `m * 2 ^ e`. They are given in
quarters of `2 ^ e`; the ends belong to the range when `m` is even. -/
structure Neighbourhood where
  low : Nat
  value : Nat
  high : Nat
  closed : Bool

def neighbourhood (m : Nat) (e : Int) : Neighbourhood :=
  let gap := if m = Nat.pow 2 52 ∧ leastExponent < e then 1 else 2
  ⟨4 * m - gap, 4 * m, 4 * m + 2, m % 2 = 0⟩

def powerOfTen (e : Int) : Nat × Nat :=
  (Nat.pow 10 e.toNat, Nat.pow 10 (-e).toNat)

def decimalPoint (num den : Nat) : Int :=
  if den ≤ num then (Nat.toDigits 10 (num / den)).length
  else 1 - (Nat.toDigits 10 ((den + num - 1) / num - 1)).length

/-- The decimals with `k` digits next to the number, those that read back as it. The number is
`near.value * up / (4 * down)` and its decimal point is at `p`. -/
def candidates (near : Neighbourhood) (up down : Nat) (p : Int) (k : Nat) : List Nat :=
  let (tens, tenths) := powerOfTen (p - k)
  let unit := tens * 4 * down
  let scale := up * tenths
  let first := near.value * scale / unit
  [first, first + 1].filter fun s =>
    if near.closed then near.low * scale ≤ s * unit ∧ s * unit ≤ near.high * scale
    else near.low * scale < s * unit ∧ s * unit < near.high * scale

def nearest (near : Neighbourhood) (up down : Nat) (p : Int) (k : Nat) : Option Nat :=
  let (tens, tenths) := powerOfTen (p - k)
  let unit := tens * 4 * down
  let target := near.value * up * tenths
  match candidates near up down p k with
  | [] => none
  | [s] => some s
  | s :: t :: _ =>
      let below := target - s * unit
      let above := t * unit - target
      some (if below < above then s else if above < below then t else if s % 2 = 0 then s else t)

def dropTrailingZeros (ds : List Char) : List Char :=
  (ds.reverse.dropWhile (· = '0')).reverse

/-- Seventeen digits always read back, so one of the tries succeeds. -/
def shortest (m : Nat) (e : Int) : Decimal :=
  let (up, down) := powerOfTwo e
  let p := decimalPoint (m * up) down
  let near := neighbourhood m e
  match (List.range 17).findSome? fun i => (nearest near up down p (i + 1)).map (·, i + 1) with
  | some (s, k) =>
      let ds := Nat.toDigits 10 s
      ⟨dropTrailingZeros ds, p + (ds.length - k : Int)⟩
  | none => ⟨['0'], 1⟩

/-- How a decimal is laid out: without an exponent while its point lies above `lowest` and at most
at `highest`, otherwise as `d.ddde+x`. -/
structure Layout where
  lowest : Int
  highest : Int

def Layout.json : Layout := ⟨-6, 21⟩

def zeros (n : Nat) : List Char := List.replicate n '0'

def Decimal.layOut (style : Layout) (d : Decimal) : List Char :=
  let k : Int := d.digits.length
  if k ≤ d.point ∧ d.point ≤ style.highest then d.digits ++ zeros (d.point - k).toNat
  else if 0 < d.point ∧ d.point ≤ style.highest then
    d.digits.take d.point.toNat ++ '.' :: d.digits.drop d.point.toNat
  else if style.lowest < d.point ∧ d.point ≤ 0 then '0' :: '.' :: zeros (-d.point).toNat ++ d.digits
  else
    let power := d.point - 1
    let sign := if power < 0 then '-' else '+'
    let head := match d.digits with
      | [] => []
      | [c] => [c]
      | c :: rest => c :: '.' :: rest
    head ++ 'e' :: sign :: Nat.toDigits 10 power.natAbs

def toText : Binary64 → String
  | .nan => "null"
  | .infinite _ => "null"
  | .finite negative m e =>
      if m = 0 then "0"
      else
        let body := (shortest m e).layOut .json
        String.ofList (if negative then '-' :: body else body)

def spelling : Binary64 → String
  | .nan => "NaN"
  | .infinite negative => if negative then "-Infinity" else "Infinity"
  | n => n.toText

end SecretAccess.Binary64
