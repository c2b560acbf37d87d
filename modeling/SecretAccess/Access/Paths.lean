import SecretAccess.Order.Names
import SecretAccess.Store.Table

namespace SecretAccess

variable {α : Type}

def firstOfEach {κ : Type} [DecidableEq κ] (key : α → κ) (rows : List α) : List α :=
  (rows.foldl (fun seen row => if seen.contains (key row) then seen else seen.put (key row) row)
    Table.empty).values

def uniqueById (id : α → Given) (rows : List α) : List α :=
  let placed := rows.mapIdx fun place row => ((id row).identity place, row)
  (firstOfEach (·.1) placed).map (·.2)

structure Reached (α : Type) where
  secret : α
  groupNames : List Given
  deriving DecidableEq

abbrev ReachedSecret := Reached Secret

abbrev Found (α : Type) := Table Identity (α × Table Identity Given)

/-- Adds the path at a place to what was found on the paths before it. The first row of a secret
stays, and of a group that is reached again the latest name. -/
def addPath (id : α → Given) (found : Found α) (path : PathTo α) (place : Nat) : Found α :=
  let key := (id path.secret).identity place
  let (secret, groups) := (found.get? key).getD (path.secret, Table.empty)
  found.put key (secret, groups.put (path.groupId.identity place) path.groupName)

def gather (id : α → Given) (paths : List (PathTo α)) : List (Reached α) :=
  let found := paths.zipIdx.foldl (fun found (path, place) => addPath id found path place)
    Table.empty
  found.values.map fun (secret, groups) => ⟨secret, groups.values⟩

def collapsePaths (paths : List SecretPath) : Except Failure (List ReachedSecret) :=
  sortByName (fun reached => .ok reached.secret.name) (gather (·.id) paths)

end SecretAccess
