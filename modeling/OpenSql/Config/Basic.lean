/-
# OpenSql.Config.Basic — the configuration of a session.

A configuration names the session's context and its database, switches the trace of statements on or
off, and bounds the time a statement waits for a lock.  It can be used when neither name is blank.
-/
import OpenSql.Decimal.Digits
import OpenSql.Text.Blank

namespace OpenSql

/-- The configuration of a session. -/
structure SessionConfig where
  context : String := "DEFAULT"
  database : String := ":memory:"
  trace : Bool := false
  busyTimeout : UInt64 := 5000
deriving DecidableEq

instance : Inhabited SessionConfig := ⟨{}⟩

/-- What is wrong with a configuration or with the places it is read from. -/
inductive ConfigError where
  /-- The file could not be read. -/
  | unreadable (path reason : String)
  /-- The text does not follow the format, or a field does not fit. -/
  | malformed (path : Option String) (reason : String)
  /-- The configuration cannot be written in the format. -/
  | unwritable (reason : String)
  /-- A field or a variable has a value that cannot be used. -/
  | invalidValue (key value : String)
deriving DecidableEq

/-- The words of an error. -/
def ConfigError.message : ConfigError → String
  | unreadable path reason => "I/O error for " ++ path ++ ": " ++ reason
  | malformed none reason => "parse error: " ++ reason
  | malformed (some path) reason => "parse error in " ++ path ++ ": " ++ reason
  | unwritable reason => "serialization error: " ++ reason
  | invalidValue key value => "invalid value for " ++ key ++ ": '" ++ value ++ "'"

namespace SessionConfig

/-- The database of a private store in memory. -/
def inMemoryDatabase : String := ":memory:"

/-- The default configuration for a database. -/
def ofDatabase (database : String) : SessionConfig := { database }

/-- The configuration is for a private store in memory. -/
def isInMemory (config : SessionConfig) : Bool := config.database == inMemoryDatabase

/-- A text of white space only, or of nothing. -/
def isBlank (s : String) : Bool := (Text.trim s.toList).isEmpty

/-- Refuses a blank context, and then a blank database. -/
def validate (config : SessionConfig) : Except ConfigError Unit :=
  if isBlank config.context then .error (.invalidValue "context" config.context)
  else if isBlank config.database then .error (.invalidValue "database" config.database)
  else .ok ()

end SessionConfig

end OpenSql
