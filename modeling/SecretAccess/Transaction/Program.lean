import SecretAccess.Access.Call
import SecretAccess.Instant

namespace SecretAccess

inductive Scope where
  | current
  | autocommit
  /-- The transaction that was given this name; it may have ended already. -/
  | kept (name : String)
  deriving DecidableEq, Repr

structure Ending where
  abort : Given
  catches : Bool
  returns : Option Document
  keep : Option String

/-- How a transaction ends after its last step, or after the one that failed. -/
def Ending.outcome (ending : Ending) : Option Failure → Except Failure (Option Document)
  | some failure => .error failure
  | none =>
      if ending.abort.isSome then .error (Failure.aborted ending.abort).raised
      else .ok ending.returns

inductive Step where
  | call (scope : Scope) (call : Call)
  | clock (now : Instant)
  | clear
  | dump
  | spawn (steps : List Step) (ending : Ending)
  deriving Nonempty

mutual

/-- How many moves of the queue a step is good for: its own and, of a transaction that it spawns,
the beginning, the steps and the end. -/
def Step.weight : Step → Nat
  | .spawn steps _ => 3 + weightOf steps
  | _ => 1

def weightOf : List Step → Nat
  | [] => 0
  | step :: steps => step.weight + weightOf steps

end

structure Job where
  steps : List Step
  ending : Ending

end SecretAccess
