import SecretAccess.Failure
import SecretAccess.Order.Runs
import SecretAccess.Text.Units

namespace SecretAccess

def isBefore (a b : Given) : Except Failure Bool :=
  match a.isBelow? b with
  | some below => .ok below
  | none => .error .unspeakable

/-- Names are compared by code units, and those that are no texts by the numbers that they stand for. That is
no order of its own, so rows with such names come out as the steps of the sort leave them. -/
def compareNames (a b : Given) : Except Failure Ordering := do
  if ← isBefore a b then return .lt
  else if ← isBefore b a then return .gt
  else return .eq

variable {α : Type}

def nameText? (name : α → Except Failure Given) (row : α) : Option String :=
  match name row with
  | .ok given => given.text?
  | .error _ => none

def sortByName (name : α → Except Failure Given) (rows : List α) : Except Failure (List α) :=
  if rows.all fun row => (nameText? name row).isSome then
    .ok (Text.sortBy (fun row => (nameText? name row).getD "") rows)
  else Order.sort (fun a b => do isBefore (← name a) (← name b)) rows

end SecretAccess
