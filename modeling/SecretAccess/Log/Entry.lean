import SecretAccess.Document.Given
import SecretAccess.Document.Inherited

namespace SecretAccess

inductive LogLevel where
  | trace
  | debug
  | info
  | warn
  | error
  | fatal
  | silent
  deriving DecidableEq, Repr

namespace LogLevel

def all : List LogLevel := [trace, debug, info, warn, error, fatal, silent]

def label : LogLevel → String
  | trace => "trace"
  | debug => "debug"
  | info => "info"
  | warn => "warn"
  | error => "error"
  | fatal => "fatal"
  | silent => "silent"

def rank : LogLevel → Nat
  | trace => 0
  | debug => 1
  | info => 2
  | warn => 3
  | error => 4
  | fatal => 5
  | silent => 6

def ofLabel? (label : String) : Option LogLevel :=
  all.find? (·.label = label)

/-- The level that a logger is asked for. Except for silence the label can be in capitals. A name
that every object has is found among the levels as well, and nothing is as high as that. -/
def ofRequest? (request : String) : Option LogLevel :=
  match (ofLabel? request.toLower).filter (· ≠ silent) with
  | some level => some level
  | none =>
      if request = silent.label || Document.isInherited request ||
          Document.isInherited request.toLower then some silent
      else none

def ofNumber? (n : Binary64) : Option LogLevel :=
  if n = .infinite false then some silent
  else (all.filter (· ≠ silent)).find? fun level => Binary64.ofNat (10 * (level.rank + 1)) = n

end LogLevel

structure LogEntry where
  level : LogLevel
  message : Given
  data : Given

end SecretAccess
