import SecretAccess.Log.Line
import SecretAccess.Sql.Statement
import SecretAccess.Url.Basic

namespace SecretAccess

open Sql

abbrev Environment := List (String × Document)

def Document.sort : Document → String
  | null => "null"
  | flag _ => "boolean"
  | number _ => "number"
  | text _ => "string"
  | list _ => "array"
  | fields _ => "object"

/-- What the environment sets under a key, and how it is read. A setting can have several problems
at once. -/
structure Variable (α : Type) where
  key : String
  missing : Except String α
  read : Document → Except (List String) α

namespace Variable

variable {α : Type}

def value (v : Variable α) (env : Environment) : Except (List String) α :=
  match env.lookup v.key with
  | some setting => v.read setting
  | none => v.missing.mapError ([·])

def problems (v : Variable α) (env : Environment) : List Problem :=
  match v.value env with
  | .ok _ => []
  | .error messages => messages.map fun message => ⟨some v.key, some (.text message)⟩

def unexpected (expected : String) (setting : Document) : String :=
  s!"Expected {expected}, received {setting.sort}"

def ofText (read : String → Except String α) (setting : Document) : Except (List String) α :=
  match setting with
  | .text text => (read text).mapError ([·])
  | other => .error [unexpected "string" other]

def choice (key : String) (label : α → String) (choices : List α) (fallback : α) : Variable α where
  key := key
  missing := .ok fallback
  read setting :=
    let expected := String.intercalate " | " (choices.map fun value => s!"'{label value}'")
    match setting with
    | .text text => match choices.find? (label · = text) with
        | some value => .ok value
        | none => .error [s!"Invalid enum value. Expected {expected}, received '{text}'"]
    | other => .error [unexpected expected other]

def databaseUrl : Variable String where
  key := "DATABASE_URL"
  missing := .error "is required"
  read := ofText fun text =>
    if (Url.ofText? text).isSome then .ok text else .error "must be a URL"

def countProblems : Binary64 → List String
  | .nan => ["Expected number, received nan"]
  | n => (if n.isInteger then [] else ["Expected integer, received float"]) ++
      (if n.isPositive then [] else ["Number must be greater than 0"])

def countSet (setting : Document) : Binary64 :=
  (Given.toBinary64? (some setting)).getD .nan

def maxConnections : Variable Binary64 where
  key := "DATABASE_MAX_CONNECTIONS"
  missing := .ok (.ofNat 10)
  read setting :=
    let n := countSet setting
    if countProblems n = [] then .ok n else .error (countProblems n)

def isolationLevel : Variable IsolationLevel :=
  .choice "DATABASE_ISOLATION_LEVEL" IsolationLevel.label
    [.readCommitted, .repeatableRead, .serializable] .readCommitted

def logLevel : Variable LogLevel :=
  .choice "LOG_LEVEL" LogLevel.label LogLevel.all .info

def serviceName : Variable String where
  key := "SERVICE_NAME"
  missing := .ok Logger.defaultService
  read := ofText fun text =>
    if text = "" then .error "String must contain at least 1 character(s)" else .ok text

end Variable

structure Config where
  databaseUrl : String
  maxConnections : Binary64
  isolationLevel : IsolationLevel
  logLevel : LogLevel
  serviceName : String

namespace Config

def problems (env : Environment) : List Problem :=
  Variable.databaseUrl.problems env ++ Variable.maxConnections.problems env ++
    Variable.isolationLevel.problems env ++ Variable.logLevel.problems env ++
    Variable.serviceName.problems env

def values (env : Environment) : Except (List String) Config := do
  let url ← Variable.databaseUrl.value env
  let connections ← Variable.maxConnections.value env
  let isolation ← Variable.isolationLevel.value env
  let level ← Variable.logLevel.value env
  let service ← Variable.serviceName.value env
  return ⟨url, connections, isolation, level, service⟩

/-- Whether a number is asked for where nothing can stand for one. -/
def isUnspeakable (env : Environment) : Bool :=
  match env.lookup Variable.maxConnections.key with
  | some setting => (Given.toBinary64? (some setting)).isNone
  | none => false

def ofEnvironment (env : Environment) : Except Failure Config :=
  if isUnspeakable env then .error .unspeakable
  else (values env).mapError fun _ => .configuration (problems env)

def ofGiven (given : Given) : Except Failure Config :=
  match given with
  | none => ofEnvironment []
  | some (.fields env) => ofEnvironment env
  | some other =>
      .error (.configuration [⟨some "", some (.text (Variable.unexpected "object" other))⟩])

end Config

end SecretAccess
