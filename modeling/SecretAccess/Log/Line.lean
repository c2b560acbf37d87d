import SecretAccess.Failure
import SecretAccess.Instant
import SecretAccess.Log.Entry
import SecretAccess.Log.HttpRequest
import SecretAccess.Log.Report
import SecretAccess.Log.Template

namespace SecretAccess

structure Logger where
  level : LogLevel
  service : Document

namespace Logger

def defaultService : String := "warden"

def make (now : Instant) (level : LogLevel) (service : Document) : Except Failure Logger :=
  if now.inRange then .ok ⟨level, service⟩ else .error .invalidInstant

def levelAsked (asked : Document) : Except Failure LogLevel :=
  match asked.plainText? with
  | none => .error .unspeakable
  | some label =>
      let level? := match asked with
        | .number n => LogLevel.ofNumber? n
        | _ => LogLevel.ofRequest? label
      match level? with
      | some level => .ok level
      | none => .error (.unknownLogLevel label)

def ofRequest (now : Instant) (level service : Given) : Except Failure Logger := do
  let logger ← make now .info (service.present.getD defaultService)
  return { logger with level := ← levelAsked (level.present.getD LogLevel.info.label) }

/-- What is written for a field whose name every object has. Writing looks for a rule under the name
of the field, and finds what every object has under it. Some of these rules need a text. -/
def inheritedText (name : String) (value : Document) : Except Failure (Option String) := do
  let text ← match value.plainText? with
    | some text => pure text
    | none =>
        if ["constructor", "hasOwnProperty", "propertyIsEnumerable", "__lookupGetter__",
            "__lookupSetter__"].contains name then .error .unspeakable
        else pure ""
  match name with
  | "constructor" => return some (if value = .null then "[object Object]" else text)
  | "toString" => return some "[object Undefined]"
  | "isPrototypeOf" => return some "false"
  | "__lookupGetter__" | "__lookupSetter__" => return none
  | "__defineGetter__" | "__defineSetter__" =>
      .error (.unwritable ("Object.prototype." ++ name ++ ": Expecting function"))
  | "__proto__" => .error (.unwritable "serializers[key] is not a function")
  | "toLocaleString" =>
      .error (.unwritable "Object.prototype.toLocaleString called on null or undefined")
  | _ => .error (.unwritable "Cannot convert undefined or null to object")

def valueText (name : String) (value : Document) : Except Failure (Option String) :=
  if Document.isInherited name then inheritedText name value
  else return some (← if name = "err" then value.report else pure value).render

def fieldText (entry : String × Document) : Except Failure String := do
  match ← valueText entry.1 entry.2 with
  | some text => return "," ++ Text.quote entry.1 ++ ":" ++ text
  | none => return ""

def shownFields (data : List (String × Document)) : List (String × Document) :=
  if HttpRequest.describes data then [("req", .fields (HttpRequest.fields data))]
  else Document.inWrittenOrder data

/-- What is written of an entry: its fields and its message. An entry without a message has that of
the error among its fields. Data that are no fields are the message themselves, with the message as
a value for it. -/
def content (entry : LogEntry) : Except Failure (List (String × Document) × Given) :=
  match entry.data.present with
  | some (.text template) => do
      let text ← Template.fill entry.message false template.toList
      return ([], some (.text (String.ofList text)))
  | some (.flag value) => return ([], some (.flag value))
  | some (.number value) => return ([], some (.number value))
  | data => do
      let shown := shownFields data.spread
      let told : Given := (data.field? "err").filter Document.isTruthy
      return (shown, entry.message <|> if HttpRequest.describes data.spread then none
        else told.field? "message")

def lineText (logger : Logger) (time : Timestamp) (entry : LogEntry) : Except Failure String := do
  let (shown, message) ← content entry
  let fields ← shown.mapM fieldText
  return "\x7b\"level\":" ++ Text.quote entry.level.label ++ ",\"time\":" ++ Text.quote time ++
    ",\"service\":" ++ logger.service.render ++ String.join fields ++
    (match message with
      | some message => ",\"msg\":" ++ message.render
      | none => "") ++ "\x7d"

/-- A line is one JSON object: level, time and service, then the fields of the entry as they come, then the
message. A field named like one of the fixed ones is written beside it. -/
def line (logger : Logger) (now : Instant) (entry : LogEntry) : Except Failure (Option String) :=
  if entry.level.rank < logger.level.rank then .ok none
  else match now.toText? with
    | some time => some <$> logger.lineText time entry
    | none => .error .invalidInstant

end Logger

end SecretAccess
