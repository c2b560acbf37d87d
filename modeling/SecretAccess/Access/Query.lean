import SecretAccess.Access.Paths
import SecretAccess.Access.Sanitized
import SecretAccess.Request

namespace SecretAccess

inductive AccessQuery where
  | groupsForSecret (secret : Given)
  | groupsForClient (client : Given)
  | clientsForGroup (group : Given)
  | clientsForSecret (secret : Given)
  | sanitizedForGroup (group : Given)
  | sanitizedForClient (client : Given)
  /-- The secret of this name, or the first of all without one, if the client can read it. -/
  | secretFor (client name : Given)
  | sanitizedFor (client name : Given)
  deriving DecidableEq

abbrev AccessQuery.Answer : AccessQuery → Type
  | groupsForSecret _ => List Group
  | groupsForClient _ => List Group
  | clientsForGroup _ => List Client
  | clientsForSecret _ => List Client
  | sanitizedForGroup _ => List SanitizedSecret
  | sanitizedForClient _ => List SanitizedSecret
  | secretFor .. => Option Secret
  | sanitizedFor .. => Option SanitizedSecret

def distinctByName {kind : EntityKind} (rows : List (Entity kind)) :
    Except Failure (List (Entity kind)) :=
  sortByName (fun row => .ok row.name) (uniqueById (·.id) rows)

def ReachedSecret.sanitized (reached : ReachedSecret) : Except Failure SanitizedSecret :=
  sanitize reached.secret.copy reached.groupNames

def noPathEntry (client name : Given) : LogEntry :=
  ⟨.debug, some "no authorized path to secret",
    some (.fields (Given.fields [("clientId", client), ("secretName", name)]))⟩

variable {m : Type → Type} [Monad m] [MonadExcept Failure m]

/-- Absence is no failure: a secret that does not exist and one that the client may not read give the same
answer. -/
def authorized (gateway : Gateway m) (client name : Given) : m (List ReachedSecret) := do
  let paths ← gateway.ask (.secretPaths client (.ok name))
  if paths.isEmpty then gateway.record (noPathEntry client name)
  ofExcept (collapsePaths paths)

def runQuery (gateway : Gateway m) : (query : AccessQuery) → m query.Answer
  | .groupsForSecret secret => do
      ofExcept (distinctByName (← gateway.ask (.groupsOf .grant secret)))
  | .groupsForClient client => do
      ofExcept (distinctByName (← gateway.ask (.groupsOf .membership client)))
  | .clientsForGroup group => do
      ofExcept (distinctByName (← gateway.ask (.endpointsOf .membership group)))
  | .clientsForSecret secret => do
      ofExcept (distinctByName (← gateway.ask (.clientsForSecret secret)))
  | .sanitizedForGroup group => do
      let secrets ← ofExcept (distinctByName (← gateway.ask (.endpointsOf .grant group)))
      ofExcept (secrets.mapM fun secret => sanitize secret.copy [])
  | .sanitizedForClient client => do
      let reached ← ofExcept (collapsePaths (← gateway.ask (.secretPaths client (.ok none))))
      ofExcept (reached.mapM ReachedSecret.sanitized)
  | .secretFor client name => do
      return (← authorized gateway client name).head?.map (·.secret)
  | .sanitizedFor client name => do
      ofExcept ((← authorized gateway client name).head?.mapM ReachedSecret.sanitized)

end SecretAccess
