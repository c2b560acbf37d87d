import SecretAccess.Transaction.Queue

namespace SecretAccess

inductive Command where
  | step (step : Step)
  | transaction (job : Job)
  | parallel (jobs : List Job)

/-- A transaction's record gives those that were spawned meanwhile apart. -/
inductive CommandRecord where
  | step (record : StepRecord)
  | transaction (own : Settled) (spawned : List Settled) (sizes : List Nat)
  | parallel (own spawned : List Settled) (sizes : List Nat)
  | nothing

namespace Queue

def runJobs (q : Queue) (jobs : List Job) : List Settled × Queue :=
  let q := (jobs.foldl call { q with settled := [] }).drain
  (q.settled, q)

def command (q : Queue) : Command → CommandRecord × Queue
  | .step step =>
      let (record, q) := q.take step
      (.step record, q)
  | .transaction job =>
      let (settled, q) := q.runJobs [job]
      match settled with
      | own :: spawned => (.transaction own spawned q.session.store.sizes, q)
      | [] => (.nothing, q)
  | .parallel jobs =>
      let (settled, q) := q.runJobs jobs
      (.parallel (settled.take jobs.length) (settled.drop jobs.length) q.session.store.sizes, q)

def script (q : Queue) : List Command → List CommandRecord
  | [] => []
  | command :: commands =>
      let (record, q) := q.command command
      record :: q.script commands

end Queue

end SecretAccess
