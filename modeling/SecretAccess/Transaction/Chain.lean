import SecretAccess.Transaction.Queue

namespace SecretAccess

abbrev Settlement := Except Failure (Option Document)

/-- The promises of a context: the one that its queue starts with, and those that the call with a ticket makes. -/
inductive Promise where
  | first
  | result (ticket : Nat)
  | tail (ticket : Nat)
  | callback (ticket : Nat)
  deriving DecidableEq

inductive Handler where
  | start (next : Waiting)
  | swallow
  | pass

/-- What hangs on a promise. What the handler returns or throws goes to the promise that is derived. -/
structure Reaction where
  fulfilled : Handler
  rejected : Handler
  derived : Promise

namespace Reaction

def handler (r : Reaction) : Settlement → Handler
  | .ok _ => r.fulfilled
  | .error _ => r.rejected

def starts (next : Waiting) : Reaction := ⟨.start next, .start next, .result next.ticket⟩

def swallows (ticket : Nat) : Reaction := ⟨.swallow, .swallow, .tail ticket⟩

def passes (derived : Promise) : Reaction := ⟨.pass, .pass, derived⟩

end Reaction

inductive PromiseState where
  | pending (reactions : List Reaction)
  | settled (outcome : Settlement)

inductive Microtask where
  | react (reaction : Reaction) (outcome : Settlement)
  /-- A handler has returned a promise, so the one that is derived comes to what this one comes to. -/
  | adopt (source derived : Promise)

/-- A store whose transactions hang on one another: each call hangs on the tail and leaves a new tail behind. -/
structure Chain where
  store : Store
  clock : Instant
  quiet : Bool
  promises : Promise → PromiseState
  microtasks : List Microtask
  tail : Promise
  opened : List Running
  journals : Nat → List Undo
  called : Nat
  begun : Nat
  kept : List (String × Nat)

namespace Chain

def ofStore (s : Store) (now : Instant) (quiet : Bool) : Chain where
  store := s
  clock := now
  quiet := quiet
  promises p := if p = .first then .settled (.ok none) else .pending []
  microtasks := []
  tail := .first
  opened := []
  journals _ := []
  called := 0
  begun := 0
  kept := []

def setPromise (c : Chain) (p : Promise) (state : PromiseState) : Chain :=
  { c with promises := fun other => if other = p then state else c.promises other }

def setJournal (c : Chain) (ticket : Nat) (journal : List Undo) : Chain :=
  { c with journals := fun other => if other = ticket then journal else c.journals other }

def enqueue (c : Chain) (tasks : List Microtask) : Chain := { c with microtasks := c.microtasks ++ tasks }

def hang (c : Chain) (p : Promise) (reaction : Reaction) : Chain :=
  match c.promises p with
  | .pending reactions => c.setPromise p (.pending (reactions ++ [reaction]))
  | .settled outcome => c.enqueue [.react reaction outcome]

def settle (c : Chain) (p : Promise) (outcome : Settlement) : Chain :=
  match c.promises p with
  | .pending reactions =>
      (c.setPromise p (.settled outcome)).enqueue (reactions.map fun reaction => .react reaction outcome)
  | .settled _ => c

/-- The caller gets what comes of the reaction, which is the same whether the tail was fulfilled or rejected. The new
tail follows it, but is never rejected. -/
def call (c : Chain) (job : Job) : Chain :=
  let c' := (c.hang c.tail (.starts ⟨c.called, job⟩)).hang (.result c.called) (.swallows c.called)
  { c' with tail := .tail c.called, called := c.called + 1 }

def begin (c : Chain) (next : Waiting) (derived : Promise) : Chain :=
  let c' := (c.setJournal next.ticket []).enqueue [.adopt (.callback next.ticket) derived]
  { c' with
    opened := c.opened ++ [⟨next.ticket, c.begun + 1, next.job.steps, next.job.ending, [], none⟩]
    begun := c.begun + 1
    kept := match next.job.ending.keep with
      | some name => (name, next.ticket) :: c.kept
      | none => c.kept }

def perform (c : Chain) : Microtask → Chain
  | .adopt source derived => c.hang source (.passes derived)
  | .react reaction outcome => match reaction.handler outcome with
      | .start next => c.begin next reaction.derived
      | .swallow => c.settle reaction.derived (.ok none)
      | .pass => c.settle reaction.derived outcome

/-- The ticket of the context that a step goes through, if it is that of a transaction. It may have ended. -/
def context (c : Chain) (own : Option Nat) : Step → Option Nat
  | .call .current _ => own
  | .call (.kept name) _ => c.kept.lookup name
  | _ => none

def sight (c : Chain) (journal : List Undo) : Session := ⟨c.store, c.clock, journal, [], c.quiet⟩

def holding (c : Chain) (s : Session) : Chain := { c with store := s.store, clock := s.clock, quiet := s.quiet }

def spawn (c : Chain) : Step → Chain
  | .spawn steps ending => c.call ⟨steps, ending⟩
  | _ => c

def take (c : Chain) (own : Option Nat) (step : Step) : StepRecord × Chain :=
  match c.context own step with
  | none =>
      let (outcome, s) := (c.sight []).take false step
      (⟨outcome, s.log, s.store.sizes⟩, (c.holding s).spawn step)
  | some ticket =>
      let (outcome, s) := (c.sight (c.journals ticket)).take true step
      (⟨outcome, s.log, s.store.sizes⟩, ((c.holding s).setJournal ticket s.journal).spawn step)

def advance (c : Chain) (running : Running) (step : Step) (rest : List Step) : Chain :=
  let (record, c) := c.take (some running.ticket) step
  { c with opened := c.opened.map fun r => if r.ticket = running.ticket then r.took record rest else r }

/-- A callback that throws has its own journal undone before its promise is rejected. -/
def close (c : Chain) (running : Running) : Chain :=
  { c with
    store := if running.told.outcome.toBool then c.store else c.store.rollBack (c.journals running.ticket)
    opened := c.opened.filter fun r => r.ticket ≠ running.ticket }

def finish (c : Chain) (running : Running) : Chain :=
  (c.close running).settle (.callback running.ticket) running.told.outcome

def running? (c : Chain) (ticket : Nat) : Option Running := c.opened.find? fun running => running.ticket = ticket

def proceed (c : Chain) (ticket : Nat) : Chain :=
  match c.running? ticket with
  | none => c
  | some running => match running.rest with
      | [] => c.finish running
      | step :: rest => c.advance running step rest

def react (c : Chain) : Chain :=
  match c.microtasks with
  | [] => c
  | task :: tasks => { c with microtasks := tasks }.perform task

end Chain

end SecretAccess
