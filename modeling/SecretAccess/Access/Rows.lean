import SecretAccess.Access.Paths
import SecretAccess.Access.Sanitized

namespace SecretAccess.Rows

def nameOf (row : Given) : Except Failure Given :=
  row.part "name"

def compareByName (a b : Given) : Except Failure Ordering := do
  compareNames (← nameOf a) (← nameOf b)

def sortByName (rows : List Document) : Except Failure (List Document) :=
  SecretAccess.sortByName (fun row => nameOf (some row)) rows

/-- The first row of each id, in order. Every row must be one that can have an id. -/
def uniqueById (rows : List Document) : Except Failure (List Document) := do
  let withIds ← rows.mapM fun row => do return (← Given.part "id" (some row), row)
  return (SecretAccess.uniqueById (·.1) withIds).map (·.2)

def pathOf (path : Document) : Except Failure (PathTo (Given × Given)) := do
  let secret ← Given.part "series" (some path)
  return ⟨(← secret.part "id", secret), path.field? "groupId", path.field? "groupName"⟩

def collapse (paths : List Document) : Except Failure (List (Reached Given)) := do
  let reached := (gather (·.1) (← paths.mapM pathOf)).map fun r =>
    (⟨r.secret.2, r.groupNames⟩ : Reached Given)
  SecretAccess.sortByName (nameOf ·.secret) reached

def shown : List String :=
  ["id", "name", "description", "type", "createdAt", "createdBy", "updatedAt", "updatedBy"]

/-- What is shown of a secret: its fields as they are, and its metadata even where it has none. -/
def view (secret : Given) : Except Failure (List (String × Document)) := do
  let _ ← secret.part "id"
  return Given.fields (shown.map fun name => (name, secret.field? name)) ++
    [("metadata", .fields (secret.field? "metadata").spread)]

def sanitized (secret groups : Given) : Except Failure (Sanitized (List (String × Document))) := do
  sanitize (← view secret) (← groups.elements)

end SecretAccess.Rows
