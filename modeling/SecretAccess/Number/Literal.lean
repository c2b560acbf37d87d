import SecretAccess.Number.Binary64
import SecretAccess.Number.Digits
import SecretAccess.Text.Blank

namespace SecretAccess.Binary64

def power? : List Char → Option Int
  | [] => some 0
  | c :: rest =>
      if c = 'e' ∨ c = 'E' then
        let (negative, ds) := match rest with
          | '-' :: ds => (true, ds)
          | '+' :: ds => (false, ds)
          | ds => (false, ds)
        if ds.isEmpty then none
        else (digits? 10 ds).map fun n => if negative then -(n : Int) else n
      else none

def unsignedDecimal? (negative : Bool) (cs : List Char) : Option Binary64 :=
  let whole := cs.takeWhile isDigit
  let rest := cs.dropWhile isDigit
  let (fraction, rest) := match rest with
    | '.' :: more => (more.takeWhile isDigit, more.dropWhile isDigit)
    | _ => ([], rest)
  if whole.isEmpty && fraction.isEmpty then none
  else do
    let n ← digits? 10 (whole ++ fraction)
    let p ← power? rest
    return ofDecimal negative n (p - fraction.length)

def decimal? (cs : List Char) : Option Binary64 :=
  let (negative, body) := match cs with
    | '-' :: body => (true, body)
    | '+' :: body => (false, body)
    | body => (false, body)
  if body = "Infinity".toList then some (.infinite negative) else unsignedDecimal? negative body

def inBase? (base : Nat) (cs : List Char) : Option Binary64 :=
  if cs.isEmpty then none else (digits? base cs).map ofNat

/-- A literal is a signed decimal with an optional fraction and power of ten, a signed `Infinity`, or an
unsigned integer in base 16, 8 or 2 after `0x`, `0o` or `0b`. Blanks around it are dropped, and an empty text
is zero. -/
def ofText (s : String) : Binary64 :=
  match Text.trim s.toList with
  | [] => zero
  | '0' :: 'x' :: ds | '0' :: 'X' :: ds => (inBase? 16 ds).getD .nan
  | '0' :: 'o' :: ds | '0' :: 'O' :: ds => (inBase? 8 ds).getD .nan
  | '0' :: 'b' :: ds | '0' :: 'B' :: ds => (inBase? 2 ds).getD .nan
  | cs => (decimal? cs).getD .nan

/-- The integer with which a text begins: a sign and digits, of base 16 after `0x`. What follows is
dropped; `nan` if there are no digits. -/
def ofLeadingInteger (s : String) : Binary64 :=
  let (negative, body) := match Text.trim s.toList with
    | '-' :: body => (true, body)
    | '+' :: body => (false, body)
    | body => (false, body)
  let (base, ds) := match body with
    | '0' :: 'x' :: ds | '0' :: 'X' :: ds => (16, ds)
    | ds => (10, ds)
  let run := ds.takeWhile fun c => (digitValue? base c).isSome
  if run.isEmpty then .nan
  else match digits? base run with
    | some n => ofRatio negative n 1
    | none => .nan

end SecretAccess.Binary64
