import SecretAccess.Access.Graph
import SecretAccess.Access.Query

namespace SecretAccess

inductive Call where
  | request (request : Request)
  | mutate (verify : Bool) (change : Mutation) (endpoint group : Given)
  | query (query : AccessQuery)

abbrev Call.Answer : Call → Type
  | request r => r.Answer
  | mutate .. => Unit
  | query q => q.Answer

def Call.run {m : Type → Type} [Monad m] [MonadExcept Failure m] (gateway : Gateway m) :
    (call : Call) → m call.Answer
  | request r => gateway.ask r
  | mutate verify change endpoint group => SecretAccess.mutate gateway verify change endpoint group
  | query q => runQuery gateway q

end SecretAccess
