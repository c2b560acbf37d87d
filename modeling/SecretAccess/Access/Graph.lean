import SecretAccess.Identifier
import SecretAccess.Request

namespace SecretAccess

inductive Mutation where
  | allowAccess
  | revokeAccess
  | enrollClient
  | evictClient
  deriving DecidableEq, Repr

namespace Mutation

def edge : Mutation → EdgeKind
  | allowAccess | revokeAccess => .grant
  | enrollClient | evictClient => .membership

def request (change : Mutation) (endpoint group : String) : Request :=
  match change with
  | allowAccess | enrollClient => .link change.edge (some endpoint) (some group)
  | revokeAccess | evictClient => .unlink change.edge (some endpoint) (some group)

def message : Mutation → String
  | allowAccess => "access allowed"
  | revokeAccess => "access revoked"
  | enrollClient => "client enrolled"
  | evictClient => "client evicted"

end Mutation

def EdgeKind.endpointField : EdgeKind → String
  | .grant => "secretId"
  | .membership => "clientId"

def Mutation.entry (change : Mutation) (endpoint group : String) : LogEntry :=
  ⟨.debug, some change.message,
    some (.fields [(change.edge.endpointField, .text endpoint), ("groupId", .text group)])⟩

variable {m : Type → Type} [Monad m] [MonadExcept Failure m]

def requireStored (gateway : Gateway m) (kind : EntityKind) (id : String) : m Unit := do
  let row ← gateway.ask (.get kind (some id))
  if row.isNone then throw (.notFound kind (some id))

/-- Both identifiers are checked before the store is asked anything, and both ends are looked up first if they
are to be verified. One entry is logged once the store has done its part. -/
def mutate (gateway : Gateway m) (verify : Bool) (change : Mutation)
    (endpoint group : Given) : m Unit := do
  let endpoint ← ofExcept (Identifier.require change.edge.endpointField endpoint)
  let group ← ofExcept (Identifier.require "groupId" group)
  if verify then
    requireStored gateway change.edge.endpoint endpoint
    requireStored gateway .group group
  let _ ← gateway.ask (change.request endpoint group)
  gateway.record (change.entry endpoint group)

end SecretAccess
