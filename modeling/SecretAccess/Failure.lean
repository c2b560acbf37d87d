import SecretAccess.Document.Loose
import SecretAccess.Entity
import SecretAccess.Text.Capitals

namespace SecretAccess

structure Problem where
  key : Given
  message : Given
  deriving DecidableEq

inductive Failure where
  /-- Any mistake of the caller, under a code of its own. -/
  | accessControl (code message : Given)
  | validation (message field details code : Given)
  | invalidIdentifier (field reason : Given)
  | entityNotFound (kind : String) (id : Given)
  | clientNotFound (id : Given)
  | groupNotFound (id : Given)
  | secretNotFound (id : Given)
  | configuration (problems : List Problem)
  | store (code sqlState message : Given)
  | foreignKeyViolation (constraint message : Given)
  | uniqueViolation (constraint message : Given)
  | aborted (message : Given)
  | unknownLogLevel (level : String)
  | invalidInstant
  /-- A field of a log entry that has a name under which nothing can be written. -/
  | unwritable (reason : String)
  | connection (name : String) (code message : Given)
  | unreadable (holder part : String)
  | uncallable (part : String)
  | notIterable (value : String)
  | unspeakable
  | invalidUrl
  | malformedEscape
  | unknownSession (session : String)
  | invalidPoolSize
  deriving Inhabited

namespace Failure

def duplicate (constraint : String) : Failure :=
  .uniqueViolation constraint s!"duplicate key value violates unique constraint \"{constraint}\""

def dangling (table constraint : String) : Failure :=
  .foreignKeyViolation constraint
    s!"insert or update on table \"{table}\" violates foreign key constraint \"{constraint}\""

def notFound : EntityKind → Given → Failure
  | .client, id => .clientNotFound id
  | .group, id => .groupNotFound id
  | .secret, id => .secretNotFound id

/-- The categories of a failure, from its own up to the one of all failures. -/
def lineage : Failure → List String
  | .accessControl .. => ["AccessControlError", "Error"]
  | .validation .. => ["ValidationError", "AccessControlError", "Error"]
  | .invalidIdentifier .. =>
      ["InvalidIdentifierError", "ValidationError", "AccessControlError", "Error"]
  | .entityNotFound .. => ["EntityNotFoundError", "AccessControlError", "Error"]
  | .clientNotFound .. =>
      ["ClientNotFoundError", "EntityNotFoundError", "AccessControlError", "Error"]
  | .groupNotFound .. =>
      ["GroupNotFoundError", "EntityNotFoundError", "AccessControlError", "Error"]
  | .secretNotFound .. =>
      ["SecretNotFoundError", "EntityNotFoundError", "AccessControlError", "Error"]
  | .configuration .. => ["ConfigurationError", "AccessControlError", "Error"]
  | .store .. => ["StoreError", "Error"]
  | .foreignKeyViolation .. => ["ForeignKeyViolationError", "StoreError", "Error"]
  | .uniqueViolation .. => ["UniqueViolationError", "StoreError", "Error"]
  | .aborted .. | .unknownLogLevel .. | .unknownSession .. => ["Error"]
  | .invalidInstant | .invalidPoolSize => ["RangeError", "Error"]
  | .connection name .. => [name, "Error"]
  | .unwritable .. | .unreadable .. | .uncallable .. | .notIterable .. | .unspeakable
  | .invalidUrl => ["TypeError", "Error"]
  | .malformedEscape => ["URIError", "Error"]

def category (failure : Failure) : String :=
  failure.lineage.headD "Error"

def spoken : Failure → List Given
  | .accessControl _ message | .validation message .. | .store _ _ message
  | .foreignKeyViolation _ message | .uniqueViolation _ message | .aborted message
  | .connection _ _ message => [message]
  | .invalidIdentifier field reason => [field, reason]
  | .entityNotFound _ id | .clientNotFound id | .groupNotFound id | .secretNotFound id => [id]
  | .configuration problems => problems.flatMap fun problem => [problem.key, problem.message]
  | _ => []

/-- A failure that is made. Where no text stands for a value in its message, that is what fails. -/
def made (failure : Failure) : Except Failure Failure :=
  if failure.spoken.all fun value => value.plainText?.isSome then .ok failure
  else .error .unspeakable

def raised (failure : Failure) : Failure :=
  match failure.made with
  | .ok failure => failure
  | .error other => other

def worded (value : Given) : String :=
  value.plainText?.getD ""

def whole (value : Given) : String :=
  if value.isNone then "" else worded value

def message : Failure → String
  | .accessControl _ message | .validation message .. | .store _ _ message
  | .foreignKeyViolation _ message | .uniqueViolation _ message | .aborted message
  | .connection _ _ message => whole message
  | .invalidIdentifier field reason => s!"Invalid {worded field}: {worded reason}"
  | .entityNotFound kind id => s!"{kind} not found: {worded id}"
  | .clientNotFound id => s!"client not found: {worded id}"
  | .groupNotFound id => s!"group not found: {worded id}"
  | .secretNotFound id => s!"secret not found: {worded id}"
  | .configuration problems =>
      "Invalid configuration:\n" ++ String.intercalate "\n"
        (problems.map fun p => s!"  {worded p.key}: {worded p.message}")
  | .unknownLogLevel level => s!"default level:{level} must be included in custom levels"
  | .invalidInstant => "Invalid time value"
  | .unwritable reason => reason
  | .unreadable holder part => s!"Cannot read properties of {holder} (reading '{part}')"
  | .uncallable part => s!"{part} is not a function"
  | .notIterable value =>
      s!"{value} is not iterable (cannot read property Symbol(Symbol.iterator))"
  | .unspeakable => "Cannot convert object to primitive value"
  | .invalidUrl => "Invalid URL"
  | .malformedEscape => "URI malformed"
  | .unknownSession session => s!"target_session_attrs {session} is not supported"
  | .invalidPoolSize => "Invalid array length"

def notFoundCode (kind : String) : String := Text.capitals kind ++ "_NOT_FOUND"

def code : Failure → Given
  | .accessControl code _ => code
  | .validation _ _ _ code => code
  | .invalidIdentifier .. => "INVALID_IDENTIFIER"
  | .entityNotFound kind _ => notFoundCode kind
  | .clientNotFound _ => notFoundCode EntityKind.client.label
  | .groupNotFound _ => notFoundCode EntityKind.group.label
  | .secretNotFound _ => notFoundCode EntityKind.secret.label
  | .configuration _ => "CONFIGURATION_ERROR"
  | .store code .. => code
  | .foreignKeyViolation .. => "FOREIGN_KEY_VIOLATION"
  | .uniqueViolation .. => "UNIQUE_VIOLATION"
  | .connection _ code _ => code
  | .invalidUrl => "ERR_INVALID_URL"
  | _ => none

/-- The SQLSTATE that a database reports for the same violation. -/
def sqlState : Failure → Given
  | .store _ sqlState _ => sqlState
  | .foreignKeyViolation .. => "23503"
  | .uniqueViolation .. => "23505"
  | _ => none

def constraint : Failure → Given
  | .foreignKeyViolation constraint _ => constraint
  | .uniqueViolation constraint _ => constraint
  | _ => none

def field : Failure → Given
  | .validation _ field _ _ => field
  | .invalidIdentifier field _ => field
  | _ => none

def details : Failure → Given
  | .validation _ _ details _ => details
  | .invalidIdentifier _ reason => some (.fields (Given.fields [("reason", reason)]))
  | _ => none

def missing? : Failure → Option (String × Given)
  | .entityNotFound kind id => some (kind, id)
  | .clientNotFound id => some (EntityKind.client.label, id)
  | .groupNotFound id => some (EntityKind.group.label, id)
  | .secretNotFound id => some (EntityKind.secret.label, id)
  | _ => none

def keys? : Failure → Option (List Given)
  | .configuration problems => some (problems.map (·.key))
  | _ => none

end Failure

/-- The part of a value under a name. A value that has no such part gives nothing; of what is not
there no part can be asked for. -/
def Given.part (name : String) : Given → Except Failure Given
  | none => .error (.unreadable "undefined" name)
  | some .null => .error (.unreadable "null" name)
  | some value => .ok (value.field? name)

namespace Failure

def notFoundAs (kind id : Given) : Except Failure Failure := do
  let _ ← kind.part "toUpperCase"
  match kind with
  | some (.text kind) => (entityNotFound kind id).made
  | _ => throw (.uncallable "kind.toUpperCase")

def problemOf (problem : Document) : Except Failure Problem := do
  return ⟨← Given.part "key" (some problem), problem.field? "message"⟩

def configurationOf (problems : Given) : Except Failure Failure := do
  let _ ← problems.part "map"
  match problems with
  | some (.list problems) => (configuration (← problems.mapM problemOf)).made
  | _ => throw (.uncallable "problems.map")

end Failure

end SecretAccess
