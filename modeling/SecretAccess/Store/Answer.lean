import SecretAccess.Request
import SecretAccess.Store.Write

namespace SecretAccess.Store

def createAsked (s : Store) (now : Instant) (kind : EntityKind) (input : Given) :
    Outcome (Entity kind) :=
  match input.part "id" with
  | .ok _ => s.create now (input.draft kind)
  | .error failure => .unchanged s (.error failure)

def answer (now : Instant) (s : Store) : (request : Request) → Outcome request.Answer
  | .create kind input => s.createAsked now kind input
  | .get kind id => .unchanged s (.ok (s.get? kind id))
  | .getByName kind name => .unchanged s (.ok (s.getByName? kind name))
  | .list kind => .unchanged s (s.list kind)
  | .delete kind id => s.delete kind id
  | .link edge endpoint group => s.link now edge endpoint group
  | .unlink edge endpoint group => s.unlink edge endpoint group
  | .groupsOf edge endpoint => .unchanged s (.ok (s.groupsOf edge endpoint))
  | .endpointsOf edge group => .unchanged s (.ok (s.endpointsOf edge group))
  | .clientsForSecret secret => .unchanged s (.ok (s.clientsForSecret secret))
  | .secretPaths client name => .unchanged s (s.secretPaths client name)
  | .linked edge endpoint group => .unchanged s (.ok (s.linked edge endpoint group))
  | .count edge => .unchanged s (.ok (.ofNat (s.count edge)))

end SecretAccess.Store
