import SecretAccess.Failure
import SecretAccess.Text.Units

namespace SecretAccess

structure Sanitized (α : Type) where
  secret : α
  groups : List Given
  deriving DecidableEq

abbrev SanitizedSecret := Sanitized Secret

/-- The values that a value holds: the items of a list and the characters of a text. -/
def Given.elements : Given → Except Failure (List Given)
  | none | some .null => .ok []
  | some (.list items) => .ok (items.map some)
  | some (.text text) => .ok (text.toList.map fun c => some (.text (String.singleton c)))
  | some (.flag value) => .error (.notIterable s!"boolean {value}")
  | some (.number value) => .error (.notIterable s!"number {value.spelling}")
  | some (.fields _) => .error (.notIterable "object")

/-- Values in the order of their texts. Those that are missing come last. One value by itself needs
no text. -/
def sortByText (values : List Given) : Except Failure (List Given) :=
  let present := values.filter (·.isSome)
  let missing := values.filter (·.isNone)
  if present.length ≤ 1 || present.all (·.plainText?.isSome) then
    .ok (Text.sortBy (fun value => value.plainText?.getD "") present ++ missing)
  else .error .unspeakable

def sanitize {α : Type} (secret : α) (groups : List Given) : Except Failure (Sanitized α) := do
  return ⟨secret, ← sortByText (groups.eraseDupsBy Given.sameAs)⟩

end SecretAccess
