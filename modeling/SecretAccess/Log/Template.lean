import SecretAccess.Failure

namespace SecretAccess.Template

def numberOf (value : Document) : Except Failure Binary64 :=
  match Given.toBinary64? (some value) with
  | some number => .ok number
  | none => .error .unspeakable

def filled (value : Given) (letter : Char) : Except Failure (Option String) :=
  match letter with
  | 's' => match value.plainText? with
      | some text => .ok (some text)
      | none => .error .unspeakable
  | 'd' | 'f' => value.present.mapM fun value => return (← numberOf value).spelling
  | 'i' => value.present.mapM fun value => return (← numberOf value).floor.spelling
  | 'j' | 'o' | 'O' => .ok (value.map fun
      | .text text => "'" ++ text ++ "'"
      | value => value.render)
  | _ => .ok none

/-- The text of a template. A percent sign and a letter ask for a value: `s` for its text, `d`, `f` and `i`
for its number, and `j`, `o` and `O` for its document. Only the first of them gets the value. -/
def fill (value : Given) (used : Bool) : List Char → Except Failure (List Char)
  | '%' :: '%' :: rest => return '%' :: (← fill value used rest)
  | '%' :: letter :: rest => do
      match ← if used then .ok none else filled value letter with
      | some text => return text.toList ++ (← fill value true rest)
      | none => return '%' :: letter :: (← fill value true rest)
  | c :: rest => return c :: (← fill value used rest)
  | [] => return []

end SecretAccess.Template
