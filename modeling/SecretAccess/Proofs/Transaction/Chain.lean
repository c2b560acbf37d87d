import SecretAccess.Proofs.Transaction.InTurn
import SecretAccess.Transaction.Chain

namespace SecretAccess

def Step.apart : Step → Step
  | .call .current c => .call .autocommit c
  | step => step

namespace Session

theorem take_apart (s : Session) (journaled : Bool) (step : Step) :
    s.take journaled step.apart = s.take journaled step := by
  cases step with
  | call scope => cases scope <;> rfl
  | clock | clear | dump | spawn => rfl

theorem take_beside {s u : Session} (hstore : s.store = u.store) (hclock : s.clock = u.clock)
    (hquiet : s.quiet = u.quiet) (journaled journaled' : Bool) (step : Step) :
    (s.take journaled step).1 = (u.take journaled' step).1 ∧
      (s.take journaled step).2.Beside (u.take journaled' step).2 := by
  have hstart : Session.Beside { s with log := [] } { u with log := [] } := ⟨hstore, hclock, rfl, hquiet⟩
  cases step with
  | call scope call =>
      obtain ⟨hanswer, hbeside⟩ := hstart.run journaled journaled' call
      exact ⟨congrArg (Except.map (Reply.answer call)) hanswer, hbeside⟩
  | clock now => exact ⟨rfl, hstore, rfl, rfl, hquiet⟩
  | clear => exact ⟨rfl, congrArg Store.cleared hstore, hclock, rfl, hquiet⟩
  | dump => exact ⟨congrArg (fun s => Except.ok (Reply.rows s)) hstore, hstart⟩
  | spawn => exact ⟨rfl, hstart⟩

theorem journal_take (s : Session) (step : Step) : (s.take false step).2.journal = s.journal := by
  cases step with
  | call scope call => exact journal_run { s with log := [] } call
  | clock | clear | dump | spawn => rfl

end Session

def Handler.due : Handler → Nat
  | .start _ => 0
  | .swallow => 1
  | .pass => 2

/-- How many microtasks come of this one before what was called next is started. -/
def Microtask.due : Microtask → Nat
  | .react reaction _ => reaction.fulfilled.due
  | .adopt .. => 3

namespace Chain

def due (c : Chain) : Nat := (c.microtasks.map Microtask.due).sum

inductive Event where
  | step (step : Step)
  | call (job : Job)
  | react
  | proceed (ticket : Nat)

def after (c : Chain) : Event → Chain
  | .step step => (c.take none step).2
  | .call job => c.call job
  | .react => c.react
  | .proceed ticket => c.proceed ticket

def run (c : Chain) (events : List Event) : Chain := events.foldl after c

def trace {α : Type} (observe : Chain → Event → List α) (c : Chain) : List Event → List α
  | [] => []
  | e :: events => observe c e ++ (c.after e).trace observe events

def stepOf (c : Chain) : Event → Option Step
  | .step step => some step
  | .proceed ticket => (c.running? ticket).bind (·.rest.head?)
  | .call _ | .react => none

def callsOf (c : Chain) : Event → List Job
  | .call job => [job]
  | e => (c.stepOf e).elim [] Step.spawned

def beginsOf (c : Chain) (e : Event) : List Running :=
  (c.after e).opened.filter fun running => (c.running? running.ticket).isNone

def endsOf (c : Chain) (e : Event) : List Settled :=
  (c.opened.filter fun running => ((c.after e).running? running.ticket).isNone).map (·.told)

def turnsOf (ticket : Nat) (c : Chain) : Event → List (Step × StepRecord)
  | .proceed n => if n = ticket then
      (c.stepOf (.proceed n)).toList.map fun step => (step, (c.take (some n) step).1) else []
  | _ => []

/-- What an event amounts to for the queue. That a promise settles and hands on what it came to is nothing to it. -/
def move? (c : Chain) : Event → Option SecretAccess.Event
  | .step step => some (.step step.apart)
  | .call job => some (.call job)
  | .react => (c.beginsOf .react).head?.map fun _ => .move
  | .proceed ticket => (c.running? ticket).map fun _ => .move

def moves (c : Chain) (events : List Event) : List SecretAccess.Event := c.trace (fun c e => (c.move? e).toList) events

def Works (c : Chain) : Event → Prop
  | .step _ | .call _ => False
  | .react => c.microtasks ≠ []
  | .proceed ticket => (c.running? ticket).isSome

def Busy (c : Chain) : List Event → Prop
  | [] => True
  | e :: events => c.Works e ∧ (c.after e).Busy events

/-- From the tail of a call on, each promise waits for the one before it and starts what was called next. The last one
is the tail of the context. -/
def Hangs (c : Chain) : Nat → List Waiting → Prop
  | n, [] => c.tail = .tail n ∧ c.promises (.tail n) = .pending []
  | n, next :: others => c.promises (.tail n) = .pending [.starts next] ∧
      c.promises (.result next.ticket) = .pending [.swallows next.ticket] ∧ c.Hangs next.ticket others

def Follows (c : Chain) (n : Nat) (waiting : List Waiting) : Prop :=
  c.promises (.result n) = .pending [.swallows n] ∧ c.Hangs n waiting

/-- Where the chain has come to, between the end of one callback and that of the next one. -/
inductive Front (c : Chain) (q : Queue) : Prop
  | idle (running : q.running = none) (waiting : q.waiting = []) (tasks : c.microtasks = [])
      (tail : c.promises c.tail = .settled (.ok none))
  | ready {next : Waiting} {others : List Waiting} {outcome : Settlement} (running : q.running = none)
      (waiting : q.waiting = next :: others) (tasks : c.microtasks = [.react (.starts next) outcome])
      (follows : c.Follows next.ticket others)
  | begun {running : Running} (isRunning : q.running = some running)
      (tasks : c.microtasks = [.adopt (.callback running.ticket) (.result running.ticket)])
      (callback : c.promises (.callback running.ticket) = .pending []) (follows : c.Follows running.ticket q.waiting)
  | adopted {running : Running} (isRunning : q.running = some running) (tasks : c.microtasks = [])
      (callback : c.promises (.callback running.ticket) = .pending [.passes (.result running.ticket)])
      (follows : c.Follows running.ticket q.waiting)
  | ended {n : Nat} {outcome : Settlement} (running : q.running = none) (spent : q.Spent n)
      (tasks : c.microtasks = [.adopt (.callback n) (.result n)])
      (callback : c.promises (.callback n) = .settled outcome) (follows : c.Follows n q.waiting)
  | answers {n : Nat} {outcome : Settlement} (running : q.running = none) (spent : q.Spent n)
      (tasks : c.microtasks = [.react (.passes (.result n)) outcome]) (follows : c.Follows n q.waiting)
  | answered {n : Nat} {outcome : Settlement} (running : q.running = none) (spent : q.Spent n)
      (tasks : c.microtasks = [.react (.swallows n) outcome]) (hangs : c.Hangs n q.waiting)

structure Unmade (c : Chain) (n : Nat) : Prop where
  result : c.promises (.result n) = .pending []
  tail : c.promises (.tail n) = .pending []
  callback : c.promises (.callback n) = .pending []

/-- The caller with a ticket has been told how its callback ended, or no more than the platform is left to tell it. -/
def Tells (c : Chain) (n : Nat) (outcome : Settlement) : Prop :=
  c.promises (.result n) = .settled outcome ∨ c.microtasks = [.react (.passes (.result n)) outcome] ∨
    c.microtasks = [.adopt (.callback n) (.result n)] ∧ c.promises (.callback n) = .settled outcome

/-- A chain and a queue in the same place: the same rows, the same callback open with the same journal, and the same
calls waiting in the same order. -/
structure Linked (c : Chain) (q : Queue) : Prop where
  store : c.store = q.session.store
  clock : c.clock = q.session.clock
  quiet : c.quiet = q.session.quiet
  opened : c.opened = q.running.toList
  journal : ∀ running ∈ q.running, c.journals running.ticket = q.session.journal
  idle : q.running = none → q.session.journal = []
  called : c.called = q.called
  begun : c.begun = q.begun
  kept : c.kept = q.kept
  unmade : ∀ n, c.called ≤ n → c.Unmade n
  unbegun : ∀ next ∈ q.waiting, c.promises (.callback next.ticket) = .pending []
  ordered : q.Ordered
  unrejected : ∀ n outcome, c.promises (.tail n) = .settled outcome → outcome = .ok none
  tells : ∀ n outcome, c.Tells n outcome ↔ ∃ told ∈ q.settled, told.ticket = n ∧ told.outcome = outcome
  front : Front c q

end Chain

end SecretAccess
