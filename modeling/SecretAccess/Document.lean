import SecretAccess.Number.Shortest
import SecretAccess.Text.Quoted

namespace SecretAccess

inductive Document where
  | null
  | flag (value : Bool)
  | number (value : Binary64)
  | text (value : String)
  | list (items : List Document)
  | fields (entries : List (String × Document))
  deriving Inhabited, Repr

namespace Document

mutual

def same : Document → Document → Bool
  | null, null => true
  | flag a, flag b => a == b
  | number a, number b => a == b
  | text a, text b => a == b
  | list as, list bs => sameItems as bs
  | fields as, fields bs => sameEntries as bs
  | _, _ => false

def sameItems : List Document → List Document → Bool
  | [], [] => true
  | a :: as, b :: bs => same a b && sameItems as bs
  | _, _ => false

def sameEntries : List (String × Document) → List (String × Document) → Bool
  | [], [] => true
  | (name, a) :: as, (other, b) :: bs => name == other && same a b && sameEntries as bs
  | _, _ => false

end

mutual

theorem same_iff : (a b : Document) → (same a b = true ↔ a = b)
  | list as, list bs => by simp [same, sameItems_iff as bs]
  | fields as, fields bs => by simp [same, sameEntries_iff as bs]
  | null, b => by cases b <;> simp [same]
  | flag _, b => by cases b <;> simp [same]
  | number _, b => by cases b <;> simp [same]
  | text _, b => by cases b <;> simp [same]
  | list _, null | list _, flag _ | list _, number _ | list _, text _ | list _, fields _ => by
      simp [same]
  | fields _, null | fields _, flag _ | fields _, number _ | fields _, text _
  | fields _, list _ => by simp [same]

theorem sameItems_iff : (as bs : List Document) → (sameItems as bs = true ↔ as = bs)
  | [], [] => by simp [sameItems]
  | [], _ :: _ | _ :: _, [] => by simp [sameItems]
  | a :: as, b :: bs => by simp [sameItems, same_iff a b, sameItems_iff as bs]

theorem sameEntries_iff :
    (as bs : List (String × Document)) → (sameEntries as bs = true ↔ as = bs)
  | [], [] => by simp [sameEntries]
  | [], _ :: _ | _ :: _, [] => by simp [sameEntries]
  | (name, a) :: as, (other, b) :: bs => by
      simp [sameEntries, same_iff a b, sameEntries_iff as bs]

end

instance : DecidableEq Document := fun a b => decidable_of_iff _ (same_iff a b)

/-- A name that counts positions: a canonical decimal below `2 ^ 32 - 1`. -/
def position? (name : String) : Option Nat :=
  let cs := name.toList
  if cs.isEmpty || !cs.all Char.isDigit then none
  else
    let n := cs.foldl (fun n c => 10 * n + (c.toNat - 48)) 0
    if Nat.toDigits 10 n = cs ∧ n < 0xFFFFFFFF then some n else none

/-- The order in which fields are written: the names that count positions by their number, then the
others as given. -/
def inWrittenOrder {α : Type} (entries : List (String × α)) : List (String × α) :=
  let counted := entries.filterMap fun entry => (position? entry.1).map (·, entry)
  let named := entries.filter fun entry => (position? entry.1).isNone
  (counted.mergeSort fun a b => a.1 ≤ b.1).map (·.2) ++ named

def listed (items : List String) : String :=
  "[" ++ String.intercalate "," items ++ "]"

def braced (entries : List (String × String)) : String :=
  let written := (inWrittenOrder entries).map fun (name, body) => Text.quote name ++ ":" ++ body
  "\x7b" ++ String.intercalate "," written ++ "\x7d"

mutual

def render : Document → String
  | null => "null"
  | flag value => if value then "true" else "false"
  | number value => value.toText
  | text value => Text.quote value
  | list items => listed (renderItems items)
  | fields entries => braced (renderEntries entries)

def renderItems : List Document → List String
  | [] => []
  | item :: items => render item :: renderItems items

def renderEntries : List (String × Document) → List (String × String)
  | [] => []
  | (name, body) :: entries => (name, render body) :: renderEntries entries

end

def field? (name : String) : Document → Option Document
  | fields entries => entries.lookup name
  | _ => none

end Document

end SecretAccess
