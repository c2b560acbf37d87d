namespace SecretAccess.Text

def charUnits (c : Char) : List Nat :=
  if c.toNat < 0x10000 then [c.toNat]
  else [0xD800 + (c.toNat - 0x10000) / 0x400, 0xDC00 + (c.toNat - 0x10000) % 0x400]

def units (s : String) : List Nat :=
  s.toList.flatMap charUnits

def unitCount (s : String) : Nat :=
  (units s).length

/-- Lexicographic order of the code units. A character beyond the basic plane counts as the two units of its
surrogate pair, so it comes before the characters from U+E000 on. -/
def compareUnits (s t : String) : Ordering :=
  compare (units s) (units t)

def sortBy {α : Type} (text : α → String) (rows : List α) : List α :=
  rows.mergeSort fun a b => (compareUnits (text a) (text b)).isLE

end SecretAccess.Text
