import SecretAccess.Number.Digits
import SecretAccess.Text.Pieces

namespace SecretAccess.Url.Ipv4

def number? : List Char → Option Nat
  | [] => none
  | '0' :: 'x' :: ds | '0' :: 'X' :: ds => digits? 16 ds
  | '0' :: ds => digits? 8 ds
  | ds => digits? 10 ds

def labels (cs : List Char) : List (List Char) :=
  let all := Text.pieces (· = '.') cs
  if 1 < all.length ∧ all.getLast? = some [] then all.dropLast else all

def looksNumeric (cs : List Char) : Bool :=
  match (labels cs).getLast? with
  | some label => (!label.isEmpty && label.all isDigit) || (number? label).isSome
  | none => false

def value? (ns : List Nat) : Option Nat :=
  match ns.getLast? with
  | some last =>
      if ns.length ≤ 4 ∧ ns.dropLast.all (· < 256) ∧ last < Nat.pow 256 (5 - ns.length) then
        some (ns.dropLast.foldl (fun v n => v * 256 + n) 0 * Nat.pow 256 (5 - ns.length) + last)
      else none
  | none => none

/-- Up to four numbers between dots, in base ten, in base eight after `0` or in base 16 after `0x`. The last
one fills all bytes that are left, and one dot may follow it. -/
def ofText? (cs : List Char) : Option Nat :=
  ((labels cs).mapM number?).bind value?

def text (address : Nat) : String :=
  String.intercalate "."
    ([16777216, 65536, 256, 1].map fun place => toString (address / place % 256))

end SecretAccess.Url.Ipv4
