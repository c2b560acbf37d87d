import SecretAccess.Failure
import SecretAccess.Number.Literal
import SecretAccess.Text.Replacement
import SecretAccess.Text.Units
import SecretAccess.Url.Query

namespace SecretAccess.Postgres

structure Settings where
  hosts : List String
  ports : List Binary64
  user : String
  database : String
  maxConnections : Document
  idleTimeout : Document

namespace Settings

def defaultHost : String := "localhost"

def defaultPort : Binary64 := .ofNat 5432

def ofLeading (cs : List Char) : Binary64 := .ofLeadingInteger (String.ofList cs)

def behindMark? : List Char → Option (List Char)
  | ':' :: '/' :: '/' :: rest => some rest
  | _ :: rest => behindMark? rest
  | [] => none

def dropUnits (n : Nat) : List Char → List Char
  | c :: rest => if n = 0 then c :: rest else dropUnits (n - (Text.charUnits c).length) rest
  | [] => []

/-- What stands behind the scheme; where no mark ends it, two code units are left out. -/
def afterScheme (cs : List Char) : List Char :=
  (behindMark? cs).getD (dropUnits 2 cs)

def hostPart (cs : List Char) : List Char :=
  let authority := (afterScheme cs).takeWhile fun c => c ≠ '/' && c ≠ '?'
  match Text.cut? '@' authority with
  | some (_, hosts) => hosts
  | none => authority

def splitHosts (port : Binary64) (cs : List Char) : List (String × Binary64) :=
  (Text.pieces (· = ',') cs).map fun piece =>
    match Text.pieces (· = ':') piece with
    | host :: (c :: digits) :: _ => (String.ofList host, ofLeading (c :: digits))
    | host :: _ => (String.ofList host, port)
    | [] => ("", port)

def sessions : List String :=
  ["read-write", "read-only", "primary", "standby", "prefer-standby"]

def checkSession (url : Url) : Except Failure Unit :=
  match url.queryField? "target_session_attrs" with
  | some session => if session = "" || sessions.contains session then .ok ()
      else .error (.unknownSession session)
  | none => .ok ()

def poolLimit : Nat := 0xFFFFFFFF

/-- What is no number makes a pool of one connection. -/
def checkPoolSize : Document → Except Failure Unit
  | .number n => match n.isInteger, n.truncate with
      | true, some k => if 0 ≤ k ∧ k ≤ poolLimit then .ok () else .error .invalidPoolSize
      | _, _ => .error .invalidPoolSize
  | _ => .ok ()

def defaultPoolSize : Document := .number (.ofNat 10)

def defaultIdleTimeout : Document := .number (.ofNat 20)

def timeAsked (asked : Given) : Document :=
  match asked.present with
  | none => defaultIdleTimeout
  | some (.text text) => .number (.ofText text)
  | some other => other

def unescapedOr (text : String) : Except Failure String :=
  match Url.unescapedText? text.toList with
  | some plain => .ok plain
  | none => .error .malformedEscape

/-- The address in a connection string, and the text that names its hosts. Of several hosts the
first one stands in the address, as the template that it is. -/
def address (connectionString : String) : Except Failure (Url × List Char) := do
  let cs := connectionString.toList
  let hosts := (← unescapedOr (String.ofList (hostPart cs))).toList
  let first := (Text.pieces (· = ',') hosts).headD []
  match Url.ofText? (String.ofList (Text.replaceFirst hosts first cs)) with
  | some url => return (url, hosts)
  | none => throw .invalidUrl

def orElse (text fallback : String) : String := if text = "" then fallback else text

def ofConnectionString (systemUser connectionString : String) (poolSize idleTimeout : Given) :
    Except Failure Settings := do
  let poolSize := poolSize.present.getD defaultPoolSize
  let idleTimeout := timeAsked idleTimeout
  if connectionString = "" then
    checkPoolSize poolSize
    return ⟨[defaultHost], [defaultPort], systemUser, systemUser, poolSize, idleTimeout⟩
  let (url, named) ← address connectionString
  let user := orElse (← unescapedOr url.username) systemUser
  let _ ← unescapedOr url.password
  let host := orElse ((url.host.map Url.Host.text).getD "") defaultHost
  let port := (url.port.map Binary64.ofNat).getD defaultPort
  let hosts := splitHosts port (if named.contains ',' then named else host.toList)
  let database := orElse (String.ofList (url.path.text.toList.drop 1)) user
  checkSession url
  checkPoolSize poolSize
  return ⟨hosts.map (·.1), hosts.map (·.2), user, database, poolSize, idleTimeout⟩

end Settings

end SecretAccess.Postgres
