import SecretAccess.Entity
import SecretAccess.Store.Table

namespace SecretAccess

def EntityKind.tableName : EntityKind → String
  | .client => "clients"
  | .group => "groups"
  | .secret => "secrets"

def EdgeKind.tableName : EdgeKind → String
  | .grant => "access_grants"
  | .membership => "memberships"

def EdgeKind.endpointColumn : EdgeKind → String
  | .grant => "secret_id"
  | .membership => "client_id"

/-- The key of the pair that an edge joins: the text of the list of both ids. -/
def pairKey (endpoint group : Given) : String :=
  (Document.list [endpoint.getD .null, group.getD .null]).render

def Edge.key (edge : Edge) : String := pairKey edge.endpoint edge.group

/-- One table of entities for each kind, under their ids, and one table of edges for each kind, under the pair
that each edge joins. Ids are drawn from one sequence for all kinds, which never goes back. -/
structure Store where
  clients : Table Identity Client
  groups : Table Identity Group
  secrets : Table Identity Secret
  grants : Table String Edge
  memberships : Table String Edge
  issued : Nat
  placed : Nat
  deriving DecidableEq, Inhabited

namespace Store

def empty : Store := ⟨.empty, .empty, .empty, .empty, .empty, 0, 0⟩

def entities (s : Store) : (kind : EntityKind) → Table Identity (Entity kind)
  | .client => s.clients
  | .group => s.groups
  | .secret => s.secrets

def withEntities (s : Store) : (kind : EntityKind) → Table Identity (Entity kind) → Store
  | .client, t => { s with clients := t }
  | .group, t => { s with groups := t }
  | .secret, t => { s with secrets := t }

def edges (s : Store) : EdgeKind → Table String Edge
  | .grant => s.grants
  | .membership => s.memberships

def withEdges (s : Store) : EdgeKind → Table String Edge → Store
  | .grant, t => { s with grants := t }
  | .membership, t => { s with memberships := t }

def sizes (s : Store) : List Nat :=
  [s.clients.size, s.groups.size, s.secrets.size, s.grants.size, s.memberships.size]

/-- The key of an id. One that is known only by its place has the next free place. -/
def key (s : Store) (id : Given) : Identity := id.identity s.placed

def cleared (s : Store) : Store :=
  { empty with issued := s.issued, placed := s.placed }

@[simp] theorem entities_withEntities (s : Store) (kind : EntityKind)
    (t : Table Identity (Entity kind)) : (s.withEntities kind t).entities kind = t := by
  cases kind <;> rfl

@[simp] theorem edges_withEntities (s : Store) (kind : EntityKind)
    (t : Table Identity (Entity kind)) (edge : EdgeKind) :
    (s.withEntities kind t).edges edge = s.edges edge := by
  cases kind <;> cases edge <;> rfl

@[simp] theorem edges_withEdges (s : Store) (edge : EdgeKind) (t : Table String Edge) :
    (s.withEdges edge t).edges edge = t := by
  cases edge <;> rfl

@[simp] theorem entities_withEdges (s : Store) (edge : EdgeKind) (t : Table String Edge)
    (kind : EntityKind) : (s.withEdges edge t).entities kind = s.entities kind := by
  cases kind <;> cases edge <;> rfl

end Store

/-- How to take back one write: put the row back that the key had before, or erase the key. -/
inductive Undo where
  | entity (kind : EntityKind) (key : Identity) (before : Option (Entity kind))
  | edge (kind : EdgeKind) (key : String) (before : Option Edge)
  deriving DecidableEq

namespace Undo

def restored {κ α : Type} [DecidableEq κ] (t : Table κ α) (key : κ) : Option α → Table κ α
  | some row => t.put key row
  | none => t.erase key

def apply (s : Store) : Undo → Store
  | entity kind key before => s.withEntities kind (restored (s.entities kind) key before)
  | edge kind key before => s.withEdges kind (restored (s.edges kind) key before)

end Undo

def Store.rollBack (s : Store) (journal : List Undo) : Store :=
  journal.reverse.foldl Undo.apply s

end SecretAccess
