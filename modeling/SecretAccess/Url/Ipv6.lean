import SecretAccess.Number.Digits
import SecretAccess.Text.Pieces

namespace SecretAccess.Url.Ipv6

def word? (cs : List Char) : Option Nat :=
  if 1 ≤ cs.length ∧ cs.length ≤ 4 then digits? 16 cs else none

def byte? (cs : List Char) : Option Nat :=
  if cs.isEmpty ∨ (1 < cs.length ∧ cs.head? = some '0') then none
  else (digits? 10 cs).filter (· < 256)

def dotted? (cs : List Char) : Option (List Nat) :=
  match (Text.pieces (· = '.') cs).mapM byte? with
  | some [a, b, c, d] => some [a * 256 + b, c * 256 + d]
  | _ => none

def words? (mayEndDotted : Bool) : List (List Char) → Option (List Nat)
  | [] => some []
  | [piece] => if mayEndDotted && piece.contains '.' then dotted? piece
      else (word? piece).map ([·])
  | piece :: rest => do return (← word? piece) :: (← words? mayEndDotted rest)

def wordsIn? (mayEndDotted : Bool) (cs : List Char) : Option (List Nat) :=
  if cs.isEmpty then some [] else words? mayEndDotted (Text.pieces (· = ':') cs)

def cutAtPair? : List Char → Option (List Char × List Char)
  | [] => none
  | ':' :: ':' :: cs => some ([], cs)
  | c :: cs => (cutAtPair? cs).map fun (before, after) => (c :: before, after)

/-- Eight words between colons. Once, a pair of colons stands for one or more words that are zero, and the
last two words may be written as four decimal bytes. -/
def ofText? (cs : List Char) : Option (List Nat) :=
  match cutAtPair? cs with
  | none => (words? true (Text.pieces (· = ':') cs)).filter (·.length = 8)
  | some (before, after) => do
      let front ← wordsIn? false before
      let back ← wordsIn? true after
      if front.length + back.length ≤ 7 then
        return front ++ List.replicate (8 - front.length - back.length) 0 ++ back
      else none

def wordText (n : Nat) : String :=
  String.ofList (Nat.toDigits 16 n)

def joined (ns : List Nat) : String :=
  String.intercalate ":" (ns.map wordText)

def zeros (ns : List Nat) : Nat :=
  (ns.takeWhile (· = 0)).length

def longestZeros : List Nat → Nat
  | [] => 0
  | n :: ns => max (zeros (n :: ns)) (longestZeros ns)

/-- The first longest run of two or more zeros is written as a pair of colons. -/
def text (ns : List Nat) : String :=
  let longest := longestZeros ns
  let starts := (List.range ns.length).find? fun i => zeros (ns.drop i) = longest
  match starts with
  | some i =>
      if longest < 2 then joined ns
      else joined (ns.take i) ++ "::" ++ joined (ns.drop (i + longest))
  | none => joined ns

end SecretAccess.Url.Ipv6
