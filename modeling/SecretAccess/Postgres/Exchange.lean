import SecretAccess.Access.Call
import SecretAccess.Postgres.Connection
import SecretAccess.Transaction.Program

namespace SecretAccess.Postgres

open Sql

inductive Action where
  | call (call : Call)
  | prepare (statement : Except Failure Statement)
  | clock (now : Instant)
  deriving Nonempty

inductive Result where
  | done
  | answer (call : Call) (answer : call.Answer)
  | statement (statement : Statement)

inductive Exchange where
  | act (action : Action) (responses : List Response)
  | transaction (exchanges : List Exchange) (ending : Ending) (responses : List Response)
  deriving Nonempty

structure Transcript where
  sent : List Statement
  log : List LogEntry
  lines : List String

inductive ExchangeRecord where
  | act (outcome : Except Failure Result) (said : Transcript)
  /-- The number of this transaction among those that were opened, or zero; what was sent to open
  it, if that succeeded; and what was said outside of its exchanges, except to open it. -/
  | transaction (start : Nat) (opened : Option (List Statement))
      (exchanges : List ExchangeRecord) (outcome : Except Failure (Option Document))
      (said : Transcript)

def ExchangeRecord.failure? : ExchangeRecord → Option Failure
  | act (.error failure) _ => some failure
  | transaction _ _ _ (.error failure) _ => some failure
  | _ => none

def perform : Action → ConnectionM Result
  | .call call => do return .answer call (← call.run gateway)
  | .prepare statement => return .statement (← ofExcept statement)
  | .clock now => do
      modify fun c => { c with clock := now }
      return .done

namespace Connection

def make (now : Instant) (sink : Sink) : Connection := ⟨now, 0, [], [], sink, [], []⟩

def listen (c : Connection) (responses : List Response) : Connection :=
  { c with responses := responses, sent := [], log := [], lines := [] }

def transcript (c : Connection) : Transcript := ⟨c.sent, c.log, c.lines⟩

def tell (c : Connection) (statement : Statement) : Connection :=
  { c with sent := c.sent ++ [statement] }

def openTransaction (c : Connection) (isolation : IsolationLevel) (responses : List Response) :
    Except Failure Unit × Connection :=
  match (send (.setIsolation isolation)).run ((c.listen responses).tell .begin) with
  | (.error failure, c) => (.error failure, c.tell .rollback)
  | (.ok _, c) => (.ok (), c)

def closeTransaction (c : Connection) (committed : Bool) : Connection :=
  (c.listen []).tell (if committed then .commit else .rollback)

end Connection

structure Conversation where
  connection : Connection
  isolation : IsolationLevel
  opened : Nat

namespace Conversation

mutual

def exchange (v : Conversation) : Exchange → ExchangeRecord × Conversation
  | .act action responses =>
      let (outcome, c) := perform action (v.connection.listen responses)
      (.act outcome c.transcript, { v with connection := c })
  | .transaction exchanges ending responses =>
      match v.connection.openTransaction v.isolation responses with
      | (.error failure, c) =>
          (.transaction 0 none [] (.error failure) c.transcript, { v with connection := c })
      | (.ok _, c) =>
          let start := v.opened + 1
          let (records, failure, v) :=
            converse ending.catches { v with connection := c, opened := start } exchanges
          let outcome := ending.outcome failure
          let closed := v.connection.closeTransaction outcome.toBool
          (.transaction start (some c.sent) records outcome closed.transcript,
            { v with connection := closed })

/-- Exchanges in order. One that fails is the last, unless failures are caught. -/
def converse (catches : Bool) (v : Conversation) :
    List Exchange → List ExchangeRecord × Option Failure × Conversation
  | [] => ([], none, v)
  | e :: es =>
      let (record, v) := exchange v e
      match record.failure?, catches with
      | some failure, false => ([record], some failure, v)
      | _, _ =>
          let (records, failure, v) := converse catches v es
          (record :: records, failure, v)

end

def exchanges (v : Conversation) (es : List Exchange) : List ExchangeRecord :=
  (v.converse true es).1

end Conversation

end SecretAccess.Postgres
