namespace SecretAccess.Text

def replacementChar : Char := '\ufffd'

/-- What has been read, and the character that has begun: its value so far, how many bytes it lacks
and between which bounds the next one lies. -/
structure ByteReading where
  text : List Char
  value : Nat
  lacking : Nat
  low : Nat
  high : Nat

namespace ByteReading

def between (text : List Char) : ByteReading := ⟨text, 0, 0, 0x80, 0xBF⟩

def begin (text : List Char) (b : Nat) : ByteReading :=
  if b < 0x80 then between (text ++ [Char.ofNat b])
  else if 0xC2 ≤ b ∧ b ≤ 0xDF then ⟨text, b - 0xC0, 1, 0x80, 0xBF⟩
  else if b = 0xE0 then ⟨text, 0, 2, 0xA0, 0xBF⟩
  else if b = 0xED then ⟨text, 0xD, 2, 0x80, 0x9F⟩
  else if 0xE1 ≤ b ∧ b ≤ 0xEF then ⟨text, b - 0xE0, 2, 0x80, 0xBF⟩
  else if b = 0xF0 then ⟨text, 0, 3, 0x90, 0xBF⟩
  else if b = 0xF4 then ⟨text, 4, 3, 0x80, 0x8F⟩
  else if 0xF1 ≤ b ∧ b ≤ 0xF3 then ⟨text, b - 0xF0, 3, 0x80, 0xBF⟩
  else between (text ++ [replacementChar])

def read (r : ByteReading) (b : Nat) : ByteReading :=
  if r.lacking = 0 then begin r.text b
  else if r.low ≤ b ∧ b ≤ r.high then
    let value := 64 * r.value + (b - 0x80)
    if r.lacking = 1 then between (r.text ++ [Char.ofNat value])
    else ⟨r.text, value, r.lacking - 1, 0x80, 0xBF⟩
  else begin (r.text ++ [replacementChar]) b

end ByteReading

/-- Where the bytes are no text, there is a replacement character for each longest beginning of a character
and for each byte that begins none. -/
def ofBytes (bytes : List UInt8) : String :=
  let r := bytes.foldl (fun r b => ByteReading.read r b.toNat) (ByteReading.between [])
  String.ofList (if r.lacking = 0 then r.text else r.text ++ [replacementChar])

end SecretAccess.Text
