import SecretAccess.Store.Answer
import SecretAccess.Transaction.Program

namespace SecretAccess

structure Session where
  store : Store
  clock : Instant
  journal : List Undo
  log : List LogEntry
  quiet : Bool

abbrev SessionM := ExceptT Failure (StateM Session)

namespace Session

/-- Every context writes to the same rows; only that of the open transaction keeps a journal. -/
def gateway (journaled : Bool) : Gateway SessionM where
  ask request := fun s =>
    let outcome := s.store.answer s.clock request
    (outcome.answer,
      { s with
        store := outcome.store
        journal := if journaled then s.journal ++ outcome.undo else s.journal })
  record entry := fun s => (.ok (), if s.quiet then s else { s with log := s.log ++ [entry] })

def run (s : Session) (journaled : Bool) (call : Call) : Except Failure call.Answer × Session :=
  (call.run (gateway journaled)) s

def close (s : Session) (failed : Bool) : Session :=
  { s with store := if failed then s.store.rollBack s.journal else s.store, journal := [] }

end Session

end SecretAccess
