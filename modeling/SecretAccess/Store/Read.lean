import SecretAccess.Order.Names
import SecretAccess.Store.Basic

namespace SecretAccess.Store

def get? (s : Store) (kind : EntityKind) (id : Given) : Option (Entity kind) :=
  (s.entities kind).get? (s.key id)

def contains (s : Store) (kind : EntityKind) (id : Given) : Bool :=
  (s.entities kind).contains (s.key id)

def getByName? (s : Store) (kind : EntityKind) (name : Given) : Option (Entity kind) :=
  (s.entities kind).values.find? (·.name.sameAs name)

def list (s : Store) (kind : EntityKind) : Except Failure (List (Entity kind)) :=
  sortByName (fun row => .ok row.name) (s.entities kind).values

/-- Rows of edges come one for each edge, in the order of the edges. Those whose other end is not stored are
passed over. -/
def groupsOf (s : Store) (edge : EdgeKind) (endpoint : Given) : List Group :=
  (s.edges edge).values.filterMap fun row =>
    if row.endpoint = endpoint then s.get? .group row.group else none

def endpointsOf (s : Store) (edge : EdgeKind) (group : Given) : List (Entity edge.endpoint) :=
  (s.edges edge).values.filterMap fun row =>
    if row.group = group then s.get? edge.endpoint row.endpoint else none

def clientsForSecret (s : Store) (secret : Given) : List Client :=
  s.grants.values.flatMap fun grant =>
    if grant.endpoint = secret then s.endpointsOf .membership grant.group else []

def pathsFrom (s : Store) (client : Given) : List SecretPath :=
  s.memberships.values.flatMap fun membership =>
    if membership.endpoint = client then
      match s.get? .group membership.group with
      | none => []
      | some group =>
          (s.endpointsOf .grant group.id).map fun secret => ⟨secret, group.id, group.name⟩
    else []

/-- The ways from a client to the secrets it can read, or to those of one name. What name is asked
for is looked up at the first way that there is. -/
def secretPaths (s : Store) (client : Given) (name : Except Failure Given) :
    Except Failure (List SecretPath) :=
  let paths := s.pathsFrom client
  match name with
  | .ok name => .ok (paths.filter fun path => name.isNone || path.secret.name.sameAs name)
  | .error failure => if paths.isEmpty then .ok [] else .error failure

def linked (s : Store) (edge : EdgeKind) (endpoint group : Given) : Bool :=
  (s.edges edge).contains (pairKey endpoint group)

def count (s : Store) (edge : EdgeKind) : Nat :=
  (s.edges edge).size

end SecretAccess.Store
