import SecretAccess.Instant
import SecretAccess.Store.Read

namespace SecretAccess

/-- A write checks the constraints first and only then changes rows. It reports how to take back what it did,
in the order in which it was done. -/
structure Outcome (α : Type) where
  answer : Except Failure α
  store : Store
  undo : List Undo

namespace Outcome

def unchanged {α : Type} (s : Store) (answer : Except Failure α) : Outcome α := ⟨answer, s, []⟩

end Outcome

namespace Store

def drawId (s : Store) (kind : EntityKind) (asked : Given) : Given × Store :=
  match asked.present with
  | some id => (some id, s)
  | none => (some (.text s!"{kind.label}-{s.issued + 1}"), { s with issued := s.issued + 1 })

/-- The constraint that an entity with this id and name would break, the primary key first. -/
def createRefusal (s : Store) (kind : EntityKind) (id name : Given) : Option Failure :=
  if s.contains kind id then some (.duplicate s!"{kind.tableName}_pkey")
  else if (s.entities kind).values.any (·.name.sameAs name) then
    some (.duplicate s!"{kind.tableName}_name_unique")
  else none

def withPlaceFor (s : Store) (id : Given) : Store :=
  if id.standsAlone then { s with placed := s.placed + 1 } else s

def create (s : Store) (now : Instant) {kind : EntityKind} (draft : Draft kind) :
    Outcome (Entity kind) :=
  let (id, s) := s.drawId kind draft.id
  match s.createRefusal kind id draft.name with
  | some failure => .unchanged s (.error failure)
  | none =>
      match now.toText? with
      | none => .unchanged s (.error .invalidInstant)
      | some stamp =>
          let row := (draft.entity id stamp).copy
          let rows := s.entities kind
          let key := s.key id
          ⟨.ok row, (s.withPlaceFor id).withEntities kind (rows.put key row),
            [.entity kind key (rows.get? key)]⟩

def removeEdges (s : Store) (kind : EdgeKind) (test : Edge → Bool) : Store × List Undo :=
  let rows := s.edges kind
  (s.withEdges kind (rows.keep fun row => !test row.2),
    (rows.rows.filter fun row => test row.2).map fun row => .edge kind row.1 (some row.2))

def cascade (s : Store) (id : Given) : EntityKind → Store × List Undo
  | .client => s.removeEdges .membership (·.endpoint = id)
  | .group =>
      let (s, grants) := s.removeEdges .grant (·.group = id)
      let (s, memberships) := s.removeEdges .membership (·.group = id)
      (s, grants ++ memberships)
  | .secret => s.removeEdges .grant (·.endpoint = id)

def delete (s : Store) (kind : EntityKind) (id : Given) : Outcome Bool :=
  let rows := s.entities kind
  let key := s.key id
  match rows.get? key with
  | none => .unchanged s (.ok false)
  | some row =>
      let (s, removed) := (s.withEntities kind (rows.erase key)).cascade id kind
      ⟨.ok true, s, .entity kind key (some row) :: removed⟩

def foreignKey (edge : EdgeKind) (column : String) (kind : EntityKind) : String :=
  s!"{edge.tableName}_{column}_{kind.tableName}_id_fk"

def danglingEndpoint (edge : EdgeKind) : Failure :=
  .dangling edge.tableName (foreignKey edge edge.endpointColumn edge.endpoint)

def danglingGroup (edge : EdgeKind) : Failure :=
  .dangling edge.tableName (foreignKey edge "group_id" .group)

/-- The reference that an edge between the two would break, that of the endpoint first. -/
def linkRefusal (s : Store) (edge : EdgeKind) (endpoint group : Given) : Option Failure :=
  if !s.contains edge.endpoint endpoint then some (danglingEndpoint edge)
  else if !s.contains .group group then some (danglingGroup edge)
  else none

/-- Joins an endpoint to a group. An edge that is there already stays as it is. -/
def link (s : Store) (now : Instant) (edge : EdgeKind) (endpoint group : Given) : Outcome Unit :=
  match s.linkRefusal edge endpoint group with
  | some failure => .unchanged s (.error failure)
  | none =>
      let rows := s.edges edge
      let key := pairKey endpoint group
      if rows.contains key then .unchanged s (.ok ())
      else match now.toText? with
        | none => .unchanged s (.error .invalidInstant)
        | some stamp =>
            ⟨.ok (), s.withEdges edge (rows.put key ⟨endpoint, group, stamp⟩),
              [.edge edge key (rows.get? key)]⟩

def unlink (s : Store) (edge : EdgeKind) (endpoint group : Given) : Outcome Unit :=
  let rows := s.edges edge
  let key := pairKey endpoint group
  match rows.get? key with
  | none => .unchanged s (.ok ())
  | some row => ⟨.ok (), s.withEdges edge (rows.erase key), [.edge edge key (some row)]⟩

end Store

end SecretAccess
