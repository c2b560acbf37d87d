import SecretAccess.Log.Line
import SecretAccess.Postgres.Rows
import SecretAccess.Postgres.Statements
import SecretAccess.Request

namespace SecretAccess.Postgres

open Sql

inductive Response where
  | rows (rows : List Row)
  | failure (name : String) (code message : Given)

inductive Sink where
  | silent
  | capture
  | lines (logger : Logger)

structure Connection where
  clock : Instant
  drawn : Nat
  /-- The answers to the statements to come; once they are used up there are no rows. -/
  responses : List Response
  sent : List Statement
  sink : Sink
  log : List LogEntry
  lines : List String

abbrev ConnectionM := ExceptT Failure (StateM Connection)

def drawnId (n : Nat) : String := "00000000-0000-4000-8000-" ++ Instant.padded 12 n

def send (statement : Statement) : ConnectionM (List Row) := fun c =>
  let sent := { c with sent := c.sent ++ [statement], responses := c.responses.tail }
  match c.responses.head? with
  | none => (.ok [], sent)
  | some (.rows rows) => (.ok rows, sent)
  | some (.failure name code message) => (.error (.connection name code message), sent)

def drawId (asked : Given) : ConnectionM Given :=
  match asked.present with
  | some id => pure (some id)
  | none => modifyGet fun c => (some (drawnId (c.drawn + 1)), { c with drawn := c.drawn + 1 })

def stamp : ConnectionM Timestamp := do
  match (← get).clock.toText? with
  | some text => return text
  | none => throw .invalidInstant

def read {α : Type} (f : Row → Except Failure α) (rows : List Row) : ConnectionM (List α) :=
  ExceptT.mk (pure (rows.mapM f))

def readFirst {α : Type} (f : Row → Except Failure α) (rows : List Row) :
    ConnectionM (Option α) :=
  ExceptT.mk (pure (rows.head?.mapM f))

def create (kind : EntityKind) (input : Given) : ConnectionM (Entity kind) := do
  let _ ← ofExcept (input.part "id")
  let draft := input.draft kind
  let id ← drawId draft.id
  let now ← stamp
  match ← readFirst (entityOf kind) (← send (insertEntity (draft.entity id now))) with
  | some row => return row
  | none => throw (.unreadable "undefined" "id")

def answer : (request : Request) → ConnectionM request.Answer
  | .create kind input => create kind input
  | .get kind id => do
      readFirst (entityOf kind)
        (← send (selectEntity kind [⟨entityColumn kind "id", comparand id⟩] none))
  | .getByName kind name => do
      readFirst (entityOf kind)
        (← send (selectEntity kind [⟨entityColumn kind "name", comparand name⟩] none))
  | .list kind => do
      read (entityOf kind) (← send (selectEntity kind [] (some (entityColumn kind "name"))))
  | .delete kind id => do
      return !(← send (deleteEntity kind id)).isEmpty
  | .link edge endpoint group => do
      let _ ← send (insertEdge edge endpoint group)
  | .unlink edge endpoint group => do
      let _ ← send (deleteEdge edge endpoint group)
  | .groupsOf edge endpoint => do
      read (entityOf .group) (← send (selectGroupsOf edge endpoint))
  | .endpointsOf edge group => do
      read (entityOf edge.endpoint) (← send (selectEndpointsOf edge group))
  | .clientsForSecret secret => do
      read (entityOf .client) (← send (selectClientsForSecret secret))
  | .secretPaths client name => do
      read pathOf (← send (selectSecretPaths client (← ofExcept name)))
  | .linked edge endpoint group => do
      return !(← send (selectEdge edge endpoint group)).isEmpty
  | .count edge => do
      ofExcept (countOf (← send (.count edge.tableName)))

def record (entry : LogEntry) : ConnectionM Unit := fun c =>
  match c.sink with
  | .silent => (.ok (), c)
  | .capture => (.ok (), { c with log := c.log ++ [entry] })
  | .lines logger =>
      match logger.line c.clock entry with
      | .ok line => (.ok (), { c with lines := c.lines ++ line.toList })
      | .error failure => (.error failure, c)

def gateway : Gateway ConnectionM := ⟨answer, record⟩

end SecretAccess.Postgres
