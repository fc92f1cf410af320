/-
# OpenSql.Config.Load — configurations from files and from the environment.

The environment goes before the file, and the file before the defaults.  The variables are taken in
the order context, database, trace, timeout; one that cannot be used ends the override, and what was
taken before it stays.
-/
import OpenSql.Config.Document
import OpenSql.Environment
import OpenSql.FileTree

namespace OpenSql

namespace SessionConfig

/-- The variable for the context. -/
def contextVariable : String := "OSQL_CONTEXT"

/-- The variable for the database. -/
def databaseVariable : String := "OSQL_DATABASE"

/-- The variable for the trace. -/
def traceVariable : String := "OSQL_TRACE"

/-- The variable for the timeout. -/
def timeoutVariable : String := "OSQL_BUSY_TIMEOUT_MS"

/-- The words that switch something on. -/
def onWords : List String := ["1", "true", "yes", "on"]

/-- The words that switch something off. -/
def offWords : List String := ["0", "false", "no", "off", ""]

/-- The truth value of a text, whatever the case of its letters and the white space around it. -/
def flag? (text : String) : Option Bool :=
  let word := String.ofList (Text.lower (Text.trim text.toList))
  if onWords.contains word then some true
  else if offWords.contains word then some false
  else none

/-- The digits of an unsigned number, which may have a plus sign. -/
def unsignedDigits? : List Char → Option (List Char)
  | '+' :: s => if s.isEmpty || !s.all Char.isDigit then none else some s
  | s => if s.isEmpty || !s.all Char.isDigit then none else some s

/-- The number of milliseconds of a text, whatever the white space around it. -/
def timeout? (text : String) : Option UInt64 :=
  match unsignedDigits? (Text.trim text.toList) with
  | none => none
  | some ds =>
    let n := Decimal.ofDigits ds
    if n < 18446744073709551616 then some (UInt64.ofNat n) else none

/-- Overrides one field by a variable, if it is set. -/
def override (env : Environment) (name : String) (read : String → Option α)
    (set : SessionConfig → α → SessionConfig) (config : SessionConfig) :
    Except ConfigError Unit × SessionConfig :=
  match env.get? name with
  | none => (.ok (), config)
  | some text =>
    match read text with
    | some x => (.ok (), set config x)
    | none => (.error (.invalidValue name text), config)

/-- Overrides the fields by the variables and checks the names; the configuration that comes with an
error has the fields that were overridden before it. -/
def applyEnvironment (env : Environment) (config : SessionConfig) :
    Except ConfigError Unit × SessionConfig :=
  let (_, config) := override env contextVariable some (fun c x => { c with context := x }) config
  let (_, config) := override env databaseVariable some (fun c x => { c with database := x }) config
  match override env traceVariable flag? (fun c x => { c with trace := x }) config with
  | (.error e, config) => (.error e, config)
  | (.ok (), config) =>
    match override env timeoutVariable timeout? (fun c x => { c with busyTimeout := x }) config with
    | (.error e, config) => (.error e, config)
    | (.ok (), config) => (config.validate, config)

/-- The configuration after the override, if that succeeds. -/
def overridden (env : Environment) (config : SessionConfig) : Except ConfigError SessionConfig :=
  match config.applyEnvironment env with
  | (.ok (), config) => .ok config
  | (.error e, _) => .error e

/-- The default configuration with the environment's overrides. -/
def ofEnvironment (env : Environment) : Except ConfigError SessionConfig := overridden env {}

/-- The words for bytes that are no text. -/
def notTextReason : String := "stream did not contain valid UTF-8"

/-- Reads a configuration from a file. -/
def ofFile (tree : FileTree (List UInt8)) (path : String) : Except ConfigError SessionConfig :=
  match tree.read path with
  | .error e => .error (.unreadable path e.message)
  | .ok bytes =>
    match Text.decodeUtf8? bytes with
    | none => .error (.unreadable path notTextReason)
    | some text =>
      match ofToml text with
      | .error (.malformed _ reason) => .error (.malformed (some path) reason)
      | result => result

/-- Reads a configuration from a file, with the environment's overrides. -/
def load (tree : FileTree (List UInt8)) (env : Environment) (path : String) :
    Except ConfigError SessionConfig := do
  overridden env (← ofFile tree path)

end SessionConfig

end OpenSql
