import SecretAccess.Number.Digits
import SecretAccess.Text.Blank

namespace SecretAccess.Instant

inductive Word where
  | month (number : Nat)
  | halfDay (hours : Nat)
  | zone (hours : Int)
  | timeMark
  | other
  deriving DecidableEq, Repr

inductive Token where
  | number (value length : Nat)
  | sign (c : Char)
  | word (meaning : Word) (length : Nat)
  | blank
  | other
  deriving DecidableEq, Repr

def months : List String :=
  ["jan", "feb", "mar", "apr", "may", "jun", "jul", "aug", "sep", "oct", "nov", "dec"]

def shortWords : List (String × Word) :=
  [("am", .halfDay 0), ("pm", .halfDay 12), ("ut", .zone 0), ("utc", .zone 0), ("z", .zone 0),
    ("gmt", .zone 0), ("cdt", .zone (-5)), ("cst", .zone (-6)), ("edt", .zone (-4)),
    ("est", .zone (-5)), ("mdt", .zone (-6)), ("mst", .zone (-7)), ("pdt", .zone (-7)),
    ("pst", .zone (-8)), ("t", .timeMark)]

/-- The first three letters tell a month; other words have no more. -/
def Word.ofLetters (letters : List Char) : Word :=
  let start := String.ofList (letters.take 3)
  match months.findIdx? (· = start) with
  | some i => .month (i + 1)
  | none => if 3 < letters.length then .other else (shortWords.lookup start).getD .other

inductive Pending where
  | nothing
  /-- Digits after the ninth that counts add nothing to the value; zeros in front do not count. -/
  | number (value counted length : Nat)
  | word (letters : List Char)
  | parentheses (depth : Nat)

structure Scan where
  tokens : List Token
  pending : Pending

namespace Scan

def isSign (c : Char) : Bool := [':', '-', '+', '.', ')'].contains c

def isLetter (c : Char) : Bool := 'A' ≤ c && !Text.isBlank c

def close (s : Scan) : List Token :=
  match s.pending with
  | .nothing => s.tokens
  | .number value _ length => s.tokens ++ [.number value length]
  | .word letters => s.tokens ++ [.word (Word.ofLetters letters) letters.length]
  | .parentheses _ => s.tokens ++ [.other]

def addDigit (value counted length : Nat) (c : Char) : Pending :=
  let counted' := if counted = 0 ∧ c = '0' then 0 else counted + 1
  .number (if counted < 9 then 10 * value + (c.toNat - 48) else value) counted' (length + 1)

def start (tokens : List Token) (c : Char) : Scan :=
  if isDigit c then ⟨tokens, addDigit 0 0 0 c⟩
  else if isSign c then ⟨tokens ++ [.sign c], .nothing⟩
  else if isLetter c then ⟨tokens, .word [c.toLower]⟩
  else if Text.isBlank c then ⟨tokens ++ [.blank], .nothing⟩
  else if c = '(' then ⟨tokens, .parentheses 1⟩
  else ⟨tokens ++ [.other], .nothing⟩

def add (s : Scan) (c : Char) : Scan :=
  match s.pending with
  | .number value counted length =>
      if isDigit c then ⟨s.tokens, addDigit value counted length c⟩ else start s.close c
  | .word letters =>
      if isLetter c then ⟨s.tokens, .word (letters ++ [c.toLower])⟩ else start s.close c
  | .parentheses depth =>
      if c = '(' then ⟨s.tokens, .parentheses (depth + 1)⟩
      else if c ≠ ')' then s
      else if depth = 1 then ⟨s.close, .nothing⟩
      else ⟨s.tokens, .parentheses (depth - 1)⟩
  | .nothing => start s.tokens c

end Scan

def tokens (cs : List Char) : List Token :=
  (cs.foldl Scan.add ⟨[], .nothing⟩).close

end SecretAccess.Instant
