import SecretAccess.Failure
import SecretAccess.Log.Entry

namespace SecretAccess

inductive Request where
  | create (kind : EntityKind) (input : Given)
  | get (kind : EntityKind) (id : Given)
  | getByName (kind : EntityKind) (name : Given)
  | list (kind : EntityKind)
  | delete (kind : EntityKind) (id : Given)
  /-- Join an endpoint to a group, unless they are joined already. -/
  | link (edge : EdgeKind) (endpoint group : Given)
  | unlink (edge : EdgeKind) (endpoint group : Given)
  | groupsOf (edge : EdgeKind) (endpoint : Given)
  | endpointsOf (edge : EdgeKind) (group : Given)
  | clientsForSecret (secret : Given)
  /-- The ways from a client to secrets, or to those of one name. To look for the name that is asked
  for can fail. -/
  | secretPaths (client : Given) (name : Except Failure Given)
  | linked (edge : EdgeKind) (endpoint group : Given)
  | count (edge : EdgeKind)

namespace Request

abbrev Answer : Request → Type
  | create kind _ => Entity kind
  | get kind _ => Option (Entity kind)
  | getByName kind _ => Option (Entity kind)
  | list kind => List (Entity kind)
  | delete .. => Bool
  | link .. => Unit
  | unlink .. => Unit
  | groupsOf .. => List Group
  | endpointsOf edge _ => List (Entity edge.endpoint)
  | clientsForSecret _ => List Client
  | secretPaths .. => List SecretPath
  | linked .. => Bool
  | count _ => Binary64

end Request

def nameAsked (filter : Given) : Except Failure Given :=
  if filter.isNone then .ok none else filter.part "secretName"

structure Gateway (m : Type → Type) where
  ask : (request : Request) → m request.Answer
  record : LogEntry → m Unit

end SecretAccess
