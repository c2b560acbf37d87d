import SecretAccess.Document.Parser
import SecretAccess.Failure
import SecretAccess.Instant.Reading
import SecretAccess.Schema.Tables

namespace SecretAccess.Postgres

abbrev Row := List Document

def instantOf (value : Document) : Except Failure (Option Instant) :=
  match value.simple? with
  | none => .error .unspeakable
  | some (.text text) => .ok (Instant.ofText? text)
  | some other => .ok (other.toBinary64.truncate.filter fun t => Instant.inRange t)

def timestamp (column : Given) : Except Failure Timestamp :=
  match column with
  | none => .error .invalidInstant
  | some .null => .error (.unreadable "null" "toISOString")
  | some value => do
      match (← instantOf value).bind Instant.toText? with
      | some stamp => return stamp
      | none => .error .invalidInstant

/-- The document in a column. A text that is none stands for itself. -/
def documentOf (column : Given) : Given :=
  match column with
  | some (.text text) => (Document.ofText? text).getD (.text text)
  | other => other

def traitsAndAudit : (kind : EntityKind) → Row → Traits kind × Row
  | .client, row => (⟨row[0]?⟩, row.drop 1)
  | .group, row => (⟨documentOf row[0]?⟩, row.drop 1)
  | .secret, row => (⟨Given.present row[0]?, documentOf row[1]?⟩, row.drop 2)

def entityOf (kind : EntityKind) (row : Row) : Except Failure (Entity kind) := do
  let (traits, audit) := traitsAndAudit kind (row.drop 3)
  let createdAt ← timestamp audit[0]?
  let updatedAt ← timestamp audit[2]?
  return ⟨row[0]?, row[1]?, Given.present row[2]?, traits, createdAt, audit[1]?, updatedAt,
    audit[3]?⟩

def pathOf (row : Row) : Except Failure SecretPath := do
  let secret ← entityOf .secret row
  let width := (Schema.entityTable .secret).columnNames.length
  return ⟨secret, row[width]?, row[width + 1]?⟩

/-- A count arrives as text or as a number; without a row it is zero. -/
def countOf (rows : List Row) : Except Failure Binary64 :=
  match rows with
  | [] | (.null :: _) :: _ => .ok .zero
  | row :: _ => match Given.toBinary64? row[0]? with
      | some count => .ok count
      | none => .error .unspeakable

end SecretAccess.Postgres
