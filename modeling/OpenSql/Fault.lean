/-
# OpenSql.Fault — failures that a backend reports.

A fault has a kind, which decides the code of the diagnostics, and the backend's own words.  What an
engine reports is classified by its result code where that says enough, and by the words of its
message where the code is the general one.
-/
import OpenSql.Decimal.Digits
import OpenSql.Text.Ascii

namespace OpenSql

/-- The kinds of failure that a program can tell apart. -/
inductive FaultKind where
  /-- A unique or primary key holds the value already. -/
  | uniqueViolation
  /-- Any other integrity constraint. -/
  | constraintViolation
  /-- A table, view or column does not exist. -/
  | undefinedObject
  /-- The statement does not follow the grammar. -/
  | syntaxError
  /-- Another connection holds a lock. -/
  | busy
  /-- A write to a database that is open for reading. -/
  | readOnly
  | other
deriving DecidableEq

namespace FaultKind

/-- The diagnostic code of a kind. -/
def sqlcode : FaultKind → Int
  | uniqueViolation => -803
  | constraintViolation => -545
  | undefinedObject => -204
  | syntaxError => -104
  | busy => -911
  | readOnly => -551
  | other => -999

/-- The name of a kind in diagnostics. -/
def name : FaultKind → String
  | uniqueViolation => "UniqueViolation"
  | constraintViolation => "ConstraintViolation"
  | undefinedObject => "UndefinedObject"
  | syntaxError => "Syntax"
  | busy => "Busy"
  | readOnly => "ReadOnly"
  | other => "Other"

/-- Every kind. -/
def all : List FaultKind :=
  [uniqueViolation, constraintViolation, undefinedObject, syntaxError, busy, readOnly, other]

/-- The kind of a name. -/
def ofName? (name : String) : Option FaultKind := all.find? (·.name == name)

end FaultKind

/-- A failure of a backend call. -/
structure Fault where
  kind : FaultKind
  message : String
  /-- The fault wraps an error of an engine. -/
  fromEngine : Bool
deriving DecidableEq

/-- The result codes of an engine, as far as the classification looks at them. -/
inductive ResultCode where
  /-- The general code; the message says what is wrong. -/
  | general
  | constraintPrimaryKey
  | constraintUnique
  /-- A constraint that is no key. -/
  | constraint
  | busy
  | locked
  | readOnly
  /-- Any other code. -/
  | special
deriving DecidableEq

/-- A failure as the engine reports it: while it runs a statement, or with a place in the text while
it reads one. -/
inductive EngineFailure where
  | running (code : ResultCode) (message : String)
  | reading (code : ResultCode) (message : String) (offset : Nat)
  /-- A result has no column of that name. -/
  | unknownResultColumn (name : String)
  /-- Statements that are run for their effect may not return rows. -/
  | returnedRows
  /-- The name of a database holds a NUL character at a place. -/
  | nulInName (position : Nat)
deriving DecidableEq

/-- The kind that the words of a message show. -/
def FaultKind.ofMessage (message : String) : FaultKind :=
  let begins (s : String) : Bool := (Text.dropExact? s.toList message.toList).isSome
  if begins "no such table" || begins "no such column" || begins "no such view" then
    .undefinedObject
  else if Text.containsExact "syntax error".toList message.toList || begins "incomplete input" then
    .syntaxError
  else .other

/-- The kind of a failure with a result code and a message. -/
def FaultKind.ofCode (code : ResultCode) (message : String) : FaultKind :=
  match code with
  | .constraintPrimaryKey | .constraintUnique => .uniqueViolation
  | .constraint => .constraintViolation
  | .busy | .locked => .busy
  | .readOnly => .readOnly
  | .general | .special => .ofMessage message

namespace EngineFailure

/-- The kind of an engine's failure. -/
def kind : EngineFailure → FaultKind
  | running code message => .ofCode code message
  | reading code message _ => .ofCode code message
  | unknownResultColumn _ => .undefinedObject
  | returnedRows => .other
  | nulInName _ => .other

/-- The engine's own words, without the place in the text. -/
def message : EngineFailure → String
  | running _ message => message
  | reading _ message _ => message
  | unknownResultColumn name => "Invalid column name: " ++ name
  | returnedRows => "Execute returned results - did you mean to call query?"
  | nulInName position => "nul byte found in provided data at position: " ++ Decimal.text position

/-- The fault that wraps an engine's failure. -/
def fault (e : EngineFailure) : Fault := ⟨e.kind, e.message, true⟩

end EngineFailure

end OpenSql
