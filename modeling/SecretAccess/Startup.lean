import SecretAccess.Config
import SecretAccess.Log.Line
import SecretAccess.Postgres.Exchange
import SecretAccess.Postgres.Settings

namespace SecretAccess

/-- The core as it starts, with the lines that were logged on the way. No statement is sent. -/
structure Startup where
  log : List String
  conversation : Postgres.Conversation

namespace Startup

def readyEntry (config : Config) : LogEntry :=
  ⟨.info, some "access-control core ready",
    some (.fields [("maxConnections", .number config.maxConnections),
      ("isolationLevel", .text config.isolationLevel.label)])⟩

def ofEnvironment (systemUser : String) (now : Instant) (env : Given) :
    Except Failure Startup := do
  let config ← Config.ofGiven env
  let logger ← Logger.make now config.logLevel config.serviceName
  let _ ← Postgres.Settings.ofConnectionString systemUser config.databaseUrl
    (some (.number config.maxConnections)) none
  let line ← logger.line now (readyEntry config)
  return ⟨line.toList, ⟨.make now (.lines logger), config.isolationLevel, 0⟩⟩

end Startup

end SecretAccess
