import SecretAccess.Failure
import SecretAccess.Text.Units

namespace SecretAccess.Identifier

def maxLength : Nat := 255

inductive Issue where
  | missing
  | notText
  | empty
  | tooLong
  deriving DecidableEq, Repr

def Issue.code : Issue → String
  | .missing | .notText => "invalid_type"
  | .empty => "too_small"
  | .tooLong => "too_big"

def Issue.message : Issue → String
  | .missing => "Required"
  | .notText => "must be a string"
  | .empty => "must not be empty"
  | .tooLong => s!"must be at most {maxLength} characters"

/-- Identifiers are opaque: text that is not empty and has at most 255 code units. -/
def check : Given → Except Issue String
  | none => .error .missing
  | some (.text id) =>
      if Text.unitCount id = 0 then .error .empty
      else if maxLength < Text.unitCount id then .error .tooLong
      else .ok id
  | some _ => .error .notText

def require (field : String) (value : Given) : Except Failure String :=
  match check value with
  | .ok id => .ok id
  | .error issue => .error (.invalidIdentifier field issue.message)

end SecretAccess.Identifier
