import SecretAccess.Number.Digits

namespace SecretAccess.Url

def bytesOf (cs : List Char) : List UInt8 :=
  cs.flatMap String.utf8EncodeChar

def textOf? (bytes : List UInt8) : Option String :=
  String.fromUTF8? ⟨bytes.toArray⟩

def hexDigit (n : Nat) : Char :=
  Char.ofNat (if n < 10 then 48 + n else 55 + n)

def escapedByte (b : UInt8) : List Char :=
  ['%', hexDigit (b.toNat / 16), hexDigit (b.toNat % 16)]

def escaped (inSet : Char → Bool) (cs : List Char) : List Char :=
  cs.flatMap fun c => if inSet c then (String.utf8EncodeChar c).flatMap escapedByte else [c]

def byte? (high low : Char) : Option UInt8 :=
  (digits? 16 [high, low]).map UInt8.ofNat

def unescaped : List Char → List UInt8
  | '%' :: high :: low :: cs => match byte? high low with
      | some b => b :: unescaped cs
      | none => bytesOf ['%'] ++ unescaped (high :: low :: cs)
  | c :: cs => String.utf8EncodeChar c ++ unescaped cs
  | [] => []

def unescaped? : List Char → Option (List UInt8)
  | '%' :: high :: low :: cs => do return (← byte? high low) :: (← unescaped? cs)
  | c :: cs => if c = '%' then none else do return String.utf8EncodeChar c ++ (← unescaped? cs)
  | [] => some []

def unescapedText? (cs : List Char) : Option String :=
  (unescaped? cs).bind textOf?

def isUnprintable (c : Char) : Bool :=
  c.toNat < 0x20 || 0x7E < c.toNat

def inQuerySet (c : Char) : Bool :=
  isUnprintable c || [' ', '"', '#', '<', '>'].contains c

def inPathSet (c : Char) : Bool :=
  inQuerySet c || ['?', '\x60', '\x7b', '\x7d'].contains c

def inUserSet (c : Char) : Bool :=
  inPathSet c || ['/', ':', ';', '=', '@', '[', '\\', ']', '^', '|'].contains c

end SecretAccess.Url
