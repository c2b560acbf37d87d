import SecretAccess.Url.Host

namespace SecretAccess.Url

structure Authority where
  username : String
  password : String
  host : Host
  port : Option Nat
  deriving DecidableEq, Repr

namespace Authority

def credentials? (cs : List Char) : Option (List Char × List Char) :=
  (Text.cut? '@' cs.reverse).map fun (after, before) => (before.reverse, after.reverse)

def cutPort (inBrackets : Bool) : List Char → List Char × Option (List Char)
  | [] => ([], none)
  | c :: cs =>
      if c = ':' && !inBrackets then ([], some cs)
      else
        let (host, port) := cutPort (c = '[' || (inBrackets && c ≠ ']')) cs
        (c :: host, port)

def port? (usual : Option Nat) (cs : List Char) : Option (Option Nat) :=
  if cs.isEmpty then some none
  else match digits? 10 cs with
    | some n => if n < 65536 then some (if some n = usual then none else some n) else none
    | none => none

def escapedUser (cs : List Char) : String := String.ofList (escaped inUserSet cs)

/-- Reads an authority. A host that is looked up, or that has credentials or a colon beside it, is
not empty. -/
def ofText? (looksUp : Bool) (usualPort : Option Nat) (cs : List Char) : Option Authority := do
  let (user, rest) := match credentials? cs with
    | some (user, rest) => (some user, rest)
    | none => (none, cs)
  let (host, port) := cutPort false rest
  guard (!host.isEmpty || !(looksUp || port.isSome || user.isSome))
  let host ← Host.ofText? looksUp host
  let port ← port? usualPort (port.getD [])
  let user := user.getD []
  let (username, password) := (Text.cut? ':' user).getD (user, [])
  return ⟨escapedUser username, escapedUser password, host, port⟩

end Authority

end SecretAccess.Url
