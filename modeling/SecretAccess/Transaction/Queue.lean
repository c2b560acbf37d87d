import SecretAccess.Transaction.Session

namespace SecretAccess

inductive Reply where
  | done
  | answer (call : Call) (answer : call.Answer)
  | rows (store : Store)

structure StepRecord where
  outcome : Except Failure Reply
  log : List LogEntry
  sizes : List Nat

def Session.take (s : Session) (journaled : Bool) (step : Step) : Except Failure Reply × Session :=
  let start := { s with log := [] }
  match step with
  | .call _ call =>
      let (answer, s) := start.run journaled call
      (answer.map (.answer call), s)
  | .clock now => (.ok .done, { start with clock := now })
  | .clear => (.ok .done, { start with store := start.store.cleared })
  | .dump => (.ok (.rows start.store), start)
  | .spawn .. => (.ok .done, start)

structure Waiting where
  ticket : Nat
  job : Job

structure Running where
  ticket : Nat
  start : Nat
  rest : List Step
  ending : Ending
  records : List StepRecord
  failure : Option Failure

structure Settled where
  ticket : Nat
  start : Nat
  records : List StepRecord
  outcome : Except Failure (Option Document)

/-- After a step. A failure that is not caught leaves no more steps. -/
def Running.took (running : Running) (record : StepRecord) (rest : List Step) : Running :=
  match record.outcome, running.ending.catches with
  | .error failure, false =>
      { running with rest := [], records := running.records ++ [record], failure := some failure }
  | _, _ => { running with rest := rest, records := running.records ++ [record] }

def Running.told (running : Running) : Settled :=
  ⟨running.ticket, running.start, running.records, running.ending.outcome running.failure⟩

/-- One move at a time, the transaction that has waited longest begins, the one that is running takes its next
step, or it ends. What a failed one wrote is taken back as it ends. -/
structure Queue where
  session : Session
  running : Option Running
  waiting : List Waiting
  settled : List Settled
  called : Nat
  begun : Nat
  kept : List (String × Nat)

namespace Queue

def make (now : Instant) (quiet : Bool) : Queue where
  session := ⟨.empty, now, [], [], quiet⟩
  running := none
  waiting := []
  settled := []
  called := 0
  begun := 0
  kept := []

def call (q : Queue) (job : Job) : Queue :=
  { q with waiting := q.waiting ++ [⟨q.called, job⟩], called := q.called + 1 }

def journaled (q : Queue) : Scope → Bool
  | .current => q.running.isSome
  | .autocommit => false
  | .kept name => match q.kept.lookup name, q.running with
      | some ticket, some running => ticket == running.ticket
      | _, _ => false

def owns (q : Queue) : Step → Bool
  | .call scope _ => q.journaled scope
  | _ => false

def take (q : Queue) (step : Step) : StepRecord × Queue :=
  let (outcome, session) := q.session.take (q.owns step) step
  let q := { q with session := session }
  let q := match step with
    | .spawn steps ending => q.call ⟨steps, ending⟩
    | _ => q
  (⟨outcome, session.log, session.store.sizes⟩, q)

def begin (q : Queue) (next : Waiting) (others : List Waiting) : Queue :=
  { q with
    waiting := others
    running := some ⟨next.ticket, q.begun + 1, next.job.steps, next.job.ending, [], none⟩
    begun := q.begun + 1
    kept := match next.job.ending.keep with
      | some name => (name, next.ticket) :: q.kept
      | none => q.kept }

def settle (q : Queue) (running : Running) : Queue :=
  { q with
    session := q.session.close running.told.outcome.toBool.not
    running := none
    settled := q.settled ++ [running.told] }

def advance (q : Queue) (running : Running) (step : Step) (rest : List Step) : Queue :=
  let (record, q) := q.take step
  { q with running := some (running.took record rest) }

def next (q : Queue) : Option Queue :=
  match q.running, q.waiting with
  | none, [] => none
  | none, waiting :: others => some (q.begin waiting others)
  | some running, _ => match running.rest with
      | [] => some (q.settle running)
      | step :: rest => some (q.advance running step rest)

def waitingWeight : List Waiting → Nat
  | [] => 0
  | waiting :: others => weightOf waiting.job.steps + 2 + waitingWeight others

/-- A bound on the moves that are left. -/
def weight (q : Queue) : Nat :=
  waitingWeight q.waiting +
    match q.running with
    | none => 0
    | some running => weightOf running.rest + 1

theorem waitingWeight_append (a b : List Waiting) :
    waitingWeight (a ++ b) = waitingWeight a + waitingWeight b := by
  induction a with
  | nil => simp [waitingWeight]
  | cons waiting a ih => simp only [List.cons_append, waitingWeight, ih, Nat.add_assoc]

theorem weight_take (q : Queue) (step : Step) :
    waitingWeight (q.take step).2.waiting + 1 = waitingWeight q.waiting + step.weight := by
  cases step with
  | spawn steps ending =>
      simp only [take, call, waitingWeight_append, Step.weight]
      simp only [waitingWeight]
      omega
  | call | clock | clear | dump => rfl

theorem weight_took (running : Running) (record : StepRecord) (rest : List Step) :
    weightOf (running.took record rest).rest ≤ weightOf rest := by
  unfold Running.took
  split
  · exact Nat.zero_le _
  · exact Nat.le_refl _

theorem weight_next {q r : Queue} (h : q.next = some r) : r.weight < q.weight := by
  unfold next at h
  split at h
  next => cases h
  next waiting others hrun hwait =>
      cases h
      simp only [weight, begin, hrun, hwait, waitingWeight]
      omega
  next running hrun =>
      split at h
      next hrest =>
          cases h
          simp only [weight, settle, hrun]
          omega
      next step rest hrest =>
          cases h
          have hw := weight_take q step
          have htook := weight_took running (q.take step).1 rest
          simp only [weight, advance, hrun, hrest, weightOf]
          omega

def drain (q : Queue) : Queue :=
  match _h : q.next with
  | none => q
  | some r => r.drain
termination_by q.weight
decreasing_by exact weight_next _h

end Queue

end SecretAccess
