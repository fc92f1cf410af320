/-
# OpenSql.Logging.Basic — the configuration of the log.

The log has a filter and a format.  Both have a variable in the environment; a further variable,
which all programs share, replaces the filter when it holds a good one.  The log can be installed only
once.
-/
import OpenSql.Environment
import OpenSql.Logging.Filter

namespace OpenSql

/-- The shapes of log lines. -/
inductive LogFormat where
  | pretty
  | compact
  | json
deriving DecidableEq

/-- The configuration of the log. -/
structure LogConfig where
  filter : String := "info"
  format : LogFormat := .pretty
deriving DecidableEq

/-- Why the log cannot be configured or installed. -/
inductive LogError where
  | unknownFormat (name : String)
  | badFilter (filter : String) (reason : Logging.FilterError)
  /-- Another log is installed. -/
  | alreadyInstalled
deriving DecidableEq

namespace LogError

/-- The words of an error. -/
def message : LogError → String
  | unknownFormat name => "unknown log format '" ++ name ++ "'"
  | badFilter filter reason => "invalid log filter '" ++ filter ++ "': " ++ reason.message
  | alreadyInstalled =>
    "failed to initialize tracing: a global default trace dispatcher has already been set"

/-- The diagnostic code of an error. -/
def code : LogError → String
  | unknownFormat _ => "osql::tracing::format"
  | badFilter _ _ => "osql::tracing::filter"
  | alreadyInstalled => "osql::tracing::init"

/-- Advice that goes with an error. -/
def help? : LogError → Option String
  | unknownFormat _ => some "use pretty, compact or json"
  | _ => none

end LogError

/-- The format of a name, whatever the case of its letters. -/
def LogFormat.ofName (name : String) : Except LogError LogFormat :=
  if Text.sameLetters name "pretty" || Text.sameLetters name "text" then .ok .pretty
  else if Text.sameLetters name "compact" then .ok .compact
  else if Text.sameLetters name "json" then .ok .json
  else .error (.unknownFormat name)

namespace LogConfig

/-- The variable for the filter. -/
def filterVariable : String := "OSQL_LOG"

/-- The variable for the format. -/
def formatVariable : String := "OSQL_LOG_FORMAT"

/-- The variable for the filter that all programs share. -/
def sharedFilterVariable : String := "RUST_LOG"

/-- The configuration that the environment asks for; an unknown format counts as none. -/
def ofEnvironment (env : Environment) : LogConfig :=
  let initial : LogConfig := {}
  { filter := (env.get? filterVariable).getD initial.filter
    format := match (env.get? formatVariable).map LogFormat.ofName with
      | some (.ok format) => format
      | _ => initial.format }

/-- The filter that counts, if it is good. -/
def effectiveFilter (env : Environment) (config : LogConfig) : Except LogError String :=
  let shared? := (env.get? sharedFilterVariable).filter fun filter =>
    (Logging.checkFilter filter).isOk
  match shared? with
  | some filter => .ok filter
  | none => match Logging.checkFilter config.filter with
    | .ok () => .ok config.filter
    | .error reason => .error (.badFilter config.filter reason)

/-- Installs the log, unless one is installed; gives the filter that counts from now on. -/
def install (env : Environment) (installed : Bool) (config : LogConfig) :
    Except LogError String := do
  let filter ← config.effectiveFilter env
  if installed then .error .alreadyInstalled else return filter

end LogConfig

end OpenSql
