namespace SecretAccess.Url.Punycode

def digit (n : Nat) : Char :=
  Char.ofNat (if n < 26 then 97 + n else 22 + n)

def digitValue? (c : Char) : Option Nat :=
  if '0' ≤ c ∧ c ≤ '9' then some (c.toNat - 22)
  else if 'a' ≤ c ∧ c ≤ 'z' then some (c.toNat - 97)
  else if 'A' ≤ c ∧ c ≤ 'Z' then some (c.toNat - 65)
  else none

/-- Digits below the threshold of their place end a number. -/
def threshold (bias place : Nat) : Nat :=
  max 1 (min 26 (place - bias))

theorem threshold_pos (bias place : Nat) : 0 < threshold bias place := by
  unfold threshold
  omega

def settle (delta place : Nat) : Nat :=
  if 455 < delta then settle (delta / 35) (place + 36) else place + 36 * delta / (delta + 38)
termination_by delta
decreasing_by omega

def adapt (delta count : Nat) (first : Bool) : Nat :=
  let delta := if first then delta / 700 else delta / 2
  settle (delta + delta / count) 0

def numberDigits (bias place n : Nat) : List Char :=
  let t := threshold bias place
  if n < t then [digit n]
  else digit (t + (n - t) % (36 - t)) :: numberDigits bias (place + 36) ((n - t) / (36 - t))
termination_by n
decreasing_by
  have ht := threshold_pos bias place
  have hle := Nat.div_le_self (n - threshold bias place) (36 - threshold bias place)
  omega

/-- What is written and what was passed over when some characters are in. -/
structure Writing where
  written : List Char
  delta : Nat
  bias : Nat
  count : Nat
  first : Bool

def isBasic (c : Char) : Bool := c.toNat < 128

def Writing.pass (n : Nat) (w : Writing) (c : Char) : Writing :=
  if c.toNat < n then { w with delta := w.delta + 1 }
  else if c.toNat = n then
    ⟨w.written ++ numberDigits w.bias 36 w.delta, 0, adapt w.delta (w.count + 1) w.first,
      w.count + 1, false⟩
  else w

def Writing.rounds (text : List Char) (w : Writing) (n : Nat) : List Nat → Writing
  | [] => w
  | value :: values =>
      let w := { w with delta := w.delta + (value - n) * (w.count + 1) }
      let w := text.foldl (Writing.pass value) w
      rounds text { w with delta := w.delta + 1 } (value + 1) values

def encode (text : List Char) : List Char :=
  let basic := text.filter isBasic
  let values := ((text.filter (!isBasic ·)).map Char.toNat).eraseDups.mergeSort
  let start := if basic.isEmpty then [] else basic ++ ['-']
  (Writing.rounds text ⟨start, 0, 72, basic.length, true⟩ 128 values).written

def number? (bias : Nat) : (place weight : Nat) → List Char → Option (Nat × List Char)
  | _, _, [] => none
  | place, weight, c :: cs => do
      let d ← digitValue? c
      let t := threshold bias place
      if d < t then return (d * weight, cs)
      let (n, rest) ← number? bias (place + 36) (weight * (36 - t)) cs
      return (d * weight + n, rest)

/-- Puts in the characters that the numbers in a text stand for. There are at most as many numbers
as `fuel`. -/
def insertAll (text : List Char) (value place bias : Nat) (first : Bool) :
    (fuel : Nat) → List Char → Option (List Char)
  | _, [] => some text
  | 0, _ => none
  | fuel + 1, cs => do
      let (delta, rest) ← number? bias 36 1 cs
      let count := text.length + 1
      let value := value + (place + delta) / count
      let place := (place + delta) % count
      if value.isValidChar then
        insertAll (text.take place ++ Char.ofNat value :: text.drop place) value (place + 1)
          (adapt delta count first) false fuel rest
      else none

/-- A text is its ASCII characters, a hyphen, and numbers in base 36 that say where the other characters go.
They go in by their value; each number counts the values and places passed over since the last one. -/
def decode? (cs : List Char) : Option (List Char) :=
  let tail := (cs.reverse.takeWhile (· ≠ '-')).reverse
  let basic := cs.take (cs.length - tail.length - 1)
  insertAll basic 128 0 72 true tail.length tail

end SecretAccess.Url.Punycode
