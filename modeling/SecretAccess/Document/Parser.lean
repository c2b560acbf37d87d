import SecretAccess.Document
import SecretAccess.Number.Literal

namespace SecretAccess.Document

def dropBlanks (cs : List Char) : List Char :=
  cs.dropWhile fun c => c = ' ' || c = '\t' || c = '\n' || c = '\r'

def unit? : List Char → Option (Nat × List Char)
  | a :: b :: c :: d :: rest => (digits? 16 [a, b, c, d]).map (·, rest)
  | _ => none

/-- The character behind `\u`. Two units can stand for one character; half of such a pair stands for
none. -/
def unitEscape? (cs : List Char) : Option (Char × List Char) := do
  let (unit, rest) ← unit? cs
  if unit < 0xD800 ∨ 0xE000 ≤ unit then return (Char.ofNat unit, rest)
  else
    let low? := match rest with
      | '\\' :: 'u' :: more => (unit? more).filter fun (low, _) => 0xDC00 ≤ low && low < 0xE000
      | _ => none
    match low? with
    | some (low, rest) =>
        if unit < 0xDC00 then
          return (Char.ofNat (0x10000 + (unit - 0xD800) * 0x400 + (low - 0xDC00)), rest)
        else return ('\ufffd', rest)
    | none => return ('\ufffd', rest)

def escape? : List Char → Option (Char × List Char)
  | '"' :: rest => some ('"', rest)
  | '\\' :: rest => some ('\\', rest)
  | '/' :: rest => some ('/', rest)
  | 'b' :: rest => some ('\x08', rest)
  | 'f' :: rest => some ('\x0c', rest)
  | 'n' :: rest => some ('\n', rest)
  | 'r' :: rest => some ('\r', rest)
  | 't' :: rest => some ('\t', rest)
  | 'u' :: rest => unitEscape? rest
  | _ => none

def quoted? : (fuel : Nat) → List Char → Option (List Char × List Char)
  | 0, _ | _, [] => none
  | _ + 1, '"' :: rest => some ([], rest)
  | fuel + 1, '\\' :: rest => do
      let (c, rest) ← escape? rest
      let (cs, rest) ← quoted? fuel rest
      return (c :: cs, rest)
  | fuel + 1, c :: rest => do
      if c.toNat < 32 then none
      let (cs, rest) ← quoted? fuel rest
      return (c :: cs, rest)

def numeral? (cs : List Char) : Option Binary64 :=
  let body := if cs.head? = some '-' then cs.drop 1 else cs
  let whole := body.takeWhile isDigit
  let behind := body.dropWhile isDigit
  let begins := whole = ['0'] || (whole.head?.any (· ≠ '0'))
  let goesOn := behind.head? ≠ some '.' || (behind.drop 1).head?.any isDigit
  if begins && goesOn then Binary64.decimal? cs else none

def isOfNumeral (c : Char) : Bool :=
  isDigit c || ['-', '+', '.', 'e', 'E'].contains c

/-- Puts a field at the end, or in place of the one that has its name. -/
def withField (entries : List (String × Document)) (entry : String × Document) :
    List (String × Document) :=
  if (entries.lookup entry.1).isSome then
    entries.map fun other => if other.1 = entry.1 then entry else other
  else entries ++ [entry]

mutual

def value? : (fuel : Nat) → List Char → Option (Document × List Char)
  | 0, _ => none
  | fuel + 1, cs => match dropBlanks cs with
    | 'n' :: 'u' :: 'l' :: 'l' :: rest => some (null, rest)
    | 't' :: 'r' :: 'u' :: 'e' :: rest => some (flag true, rest)
    | 'f' :: 'a' :: 'l' :: 's' :: 'e' :: rest => some (flag false, rest)
    | '"' :: rest => (quoted? rest.length rest).map fun (cs, rest) =>
        (text (String.ofList cs), rest)
    | '[' :: rest => match dropBlanks rest with
        | ']' :: rest => some (list [], rest)
        | rest => (items? fuel rest).map fun (items, rest) => (list items, rest)
    | '\x7b' :: rest => match dropBlanks rest with
        | '\x7d' :: rest => some (fields [], rest)
        | rest => (entries? fuel rest).map fun (entries, rest) =>
            (fields (entries.foldl withField []), rest)
    | cs => (numeral? (cs.takeWhile isOfNumeral)).map fun n =>
        (number n, cs.dropWhile isOfNumeral)

def items? : (fuel : Nat) → List Char → Option (List Document × List Char)
  | 0, _ => none
  | fuel + 1, cs => do
      let (item, rest) ← value? fuel cs
      match dropBlanks rest with
      | ',' :: rest => do
          let (items, rest) ← items? fuel rest
          return (item :: items, rest)
      | ']' :: rest => return ([item], rest)
      | _ => none

def entries? : (fuel : Nat) → List Char → Option (List (String × Document) × List Char)
  | 0, _ => none
  | fuel + 1, cs => match dropBlanks cs with
    | '"' :: rest => do
        let (name, rest) ← quoted? rest.length rest
        match dropBlanks rest with
        | ':' :: rest => do
            let (value, rest) ← value? fuel rest
            let entry := (String.ofList name, value)
            match dropBlanks rest with
            | ',' :: rest => do
                let (entries, rest) ← entries? fuel rest
                return (entry :: entries, rest)
            | '\x7d' :: rest => return ([entry], rest)
            | _ => none
        | _ => none
    | _ => none

end

def ofText? (s : String) : Option Document :=
  let cs := s.toList
  match value? (2 * cs.length + 1) cs with
  | some (document, rest) => if (dropBlanks rest).isEmpty then some document else none
  | none => none

end SecretAccess.Document
