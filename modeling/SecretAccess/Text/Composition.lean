import SecretAccess.Text.Composition.Table
import SecretAccess.Text.Ranges

namespace SecretAccess.Text

def pairOf (word : String) : Nat × Nat × Nat :=
  match (word.splitOn "=").flatMap (·.splitOn "+") with
  | [composed, first, second] => (hexNumber composed, hexNumber first, hexNumber second)
  | _ => (0, 0, 0)

def pairs : List (Nat × Nat × Nat) := (words pairText).map pairOf

def classOf (word : String) : (Nat × Nat) × Nat :=
  match word.splitOn "=" with
  | [range, value] => (rangeOf range, hexNumber value)
  | _ => ((0, 0), 0)

def classes : List ((Nat × Nat) × Nat) := (words classText).map classOf

def markClass (c : Char) : Nat :=
  let n := c.toNat
  ((classes.find? fun entry => entry.1.1 ≤ n && n ≤ entry.1.2).map (·.2)).getD 0

-- Korean syllables are composed by counting: of 19 first, 21 middle and, after none, 27 last letters.
def firstSyllable : Nat := 0xAC00
def firstLead : Nat := 0x1100
def firstVowel : Nat := 0x1161
def beforeTails : Nat := 0x11A7

def syllableLetters? (c : Char) : Option (List Char) :=
  let n := c.toNat
  if firstSyllable ≤ n ∧ n < firstSyllable + 11172 then
    let k := n - firstSyllable
    let tail := if k % 28 = 0 then [] else [beforeTails + k % 28]
    some (([firstLead + k / 588, firstVowel + k % 588 / 28] ++ tail).map Char.ofNat)
  else none

def syllable? (a b : Char) : Option Char :=
  let m := a.toNat
  let n := b.toNat
  if firstLead ≤ m ∧ m < firstLead + 19 ∧ firstVowel ≤ n ∧ n < firstVowel + 21 then
    some (Char.ofNat (firstSyllable + ((m - firstLead) * 21 + (n - firstVowel)) * 28))
  else if firstSyllable ≤ m ∧ m < firstSyllable + 11172 ∧ (m - firstSyllable) % 28 = 0 ∧
      beforeTails < n ∧ n ≤ beforeTails + 27 then
    some (Char.ofNat (m + (n - beforeTails)))
  else none

def parts (c : Char) : List Char :=
  match syllableLetters? c with
  | some letters => letters
  | none => match pairs.find? (·.1 = c.toNat) with
      | some (_, first, second) => [Char.ofNat first, Char.ofNat second]
      | none => [c]

def decomposed (c : Char) : List Char :=
  ((parts c).flatMap parts).flatMap parts

def composite? (a b : Char) : Option Char :=
  match syllable? a b with
  | some c => some c
  | none => (pairs.find? (·.2 = (a.toNat, b.toNat))).map fun entry => Char.ofNat entry.1

/-- Puts a character after others, the latest first. A mark goes before those of higher classes. -/
def placeMark (c : Char) : List Char → List Char
  | [] => [c]
  | d :: ds =>
      if markClass c ≠ 0 ∧ markClass c < markClass d then d :: placeMark c ds else c :: d :: ds

def inMarkOrder (cs : List Char) : List Char :=
  (cs.foldl (fun placed c => placeMark c placed) []).reverse

/-- Text that has been composed up to some place: what is settled, the last letter, and the marks on
it that could not be joined to it. -/
structure Composing where
  settled : List Char
  letter : Option Char
  marks : List Char

namespace Composing

def text (t : Composing) : List Char := t.settled ++ t.letter.toList ++ t.marks

def isBlocked (t : Composing) (c : Char) : Bool :=
  t.marks.getLast?.any fun d => markClass c ≤ markClass d

def add (t : Composing) (c : Char) : Composing :=
  match t.letter with
  | none =>
      if markClass c = 0 then { t with letter := some c }
      else { t with settled := t.settled ++ [c] }
  | some letter => match if t.isBlocked c then none else composite? letter c with
      | some composite => { t with letter := some composite }
      | none =>
          if markClass c = 0 then ⟨t.text, some c, []⟩ else { t with marks := t.marks ++ [c] }

end Composing

def composed (cs : List Char) : List Char :=
  ((inMarkOrder (cs.flatMap decomposed)).foldl Composing.add ⟨[], none, []⟩).text

end SecretAccess.Text
