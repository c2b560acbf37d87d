import SecretAccess.Document.Given
import SecretAccess.Number.Literal
import SecretAccess.Text.Units

namespace SecretAccess

namespace Document

def isTruthy : Document → Bool
  | null => false
  | flag value => value
  | number value => !value.isZero && value ≠ .nan
  | text value => value ≠ ""
  | list _ | fields _ => true

mutual

/-- The text that stands for a document. A list gives those of its items between commas. Fields
under which something else is found in place of the rule for this text have none. -/
def plainText? : Document → Option String
  | null => some "null"
  | flag value => some (if value then "true" else "false")
  | number value => some value.spelling
  | text value => some value
  | list items => (plainItems? items).map (String.intercalate ",")
  | fields entries => if (entries.lookup "toString").isSome then none else some "[object Object]"

def plainItems? : List Document → Option (List String)
  | [] => some []
  | null :: items => do return "" :: (← plainItems? items)
  | item :: items => do return (← plainText? item) :: (← plainItems? items)

end

def simple? : Document → Option Document
  | list items => (plainText? (list items)).map text
  | fields entries => (plainText? (fields entries)).map text
  | value => some value

def toBinary64 : Document → Binary64
  | null => .zero
  | flag value => .ofNat value.toNat
  | number value => value
  | text value => .ofText value
  | list _ | fields _ => .nan

/-- The fields that a copy of a document starts with. Those of a list and of a text are named for
the places in it. -/
def spread : Document → List (String × Document)
  | fields entries => entries
  | list items => items.mapIdx fun i item => (toString i, item)
  | text value => value.toList.mapIdx fun i c => (toString i, text (String.singleton c))
  | _ => []

end Document

namespace Given

def plainText? : Given → Option String
  | some value => value.plainText?
  | none => some "undefined"

def toBinary64? : Given → Option Binary64
  | some value => value.simple?.map Document.toBinary64
  | none => some .nan

def isBelow? (a b : Given) : Option Bool := do
  match ← a.mapM Document.simple?, ← b.mapM Document.simple? with
  | some (.text s), some (.text t) => return (Text.compareUnits s t).isLT
  | s, t => return (← toBinary64? s).isBelow (← toBinary64? t)

def spread (given : Given) : List (String × Document) :=
  (given.map Document.spread).getD []

end Given

end SecretAccess
