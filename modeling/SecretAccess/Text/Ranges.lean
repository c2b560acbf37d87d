import SecretAccess.Number.Digits

namespace SecretAccess.Text

def words (s : String) : List String :=
  ((s.splitOn "\n").flatMap (·.splitOn " ")).filter (· ≠ "")

abbrev Ranges := List (Nat × Nat)

def hexNumber (s : String) : Nat := (digits? 16 s.toList).getD 0

def rangeOf (word : String) : Nat × Nat :=
  match word.splitOn "-" with
  | [first, last] => (hexNumber first, hexNumber last)
  | _ => (hexNumber word, hexNumber word)

/-- The numbers of characters in base 16, in ranges from a first to a last one, with blanks or line ends
between the ranges. -/
def rangesOf (s : String) : Ranges :=
  (words s).map rangeOf

def within (ranges : Ranges) (c : Char) : Bool :=
  ranges.any fun (first, last) => first ≤ c.toNat && c.toNat ≤ last

end SecretAccess.Text
