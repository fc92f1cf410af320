/-
# OpenSql.Options.Form — the JSON form of the values that callers pass in and get back.

Every type has an encoder and a decoder, and reading what was written gives the value back.
-/
import OpenSql.Config.Basic
import OpenSql.Json.Decode
import OpenSql.Json.Printer
import OpenSql.Options
import OpenSql.Outcome
import OpenSql.Row

namespace OpenSql

open Json (Decoded RecordField RecordType asBool asIntegerIn asList asOption asString)

/-- A field that must be given. -/
def requiredField (name : String) (read : Json → Decoded α) (set : σ → α → σ) : RecordField σ :=
  ⟨name, fun x record => (read x).map (set record), true⟩

/-- A field that may be left out. -/
def optionalField (name : String) (read : Json → Decoded α) (set : σ → α → σ) : RecordField σ :=
  ⟨name, fun x record => (read x).map (set record), false⟩

namespace SelectOptions

/-- The fields of a selection. -/
def recordType : RecordType SelectOptions where
  name := "SelectOptions"
  fields :=
    [requiredField "select" asString fun o s => { o with select := s },
     optionalField "primaryKey" (asOption (asList asString)) fun o k => { o with primaryKey := k }]
  start := ⟨"", none⟩

/-- Reads a selection. -/
def ofJson : Json → Decoded SelectOptions := recordType.decode

/-- Writes a selection; key columns are left out when none are given. -/
def toJson (o : SelectOptions) : Json :=
  .object (("select", .string o.select) ::
    match o.primaryKey with
    | some keys => [("primaryKey", .ofTexts keys)]
    | none => [])

end SelectOptions

namespace InsertOptions

/-- The fields of an insertion. -/
def recordType : RecordType InsertOptions where
  name := "InsertOptions"
  fields :=
    [requiredField "table" asString fun o s => { o with table := s },
     requiredField "columns" (asList asString) fun o xs => { o with columns := xs },
     requiredField "values" (asList asString) fun o xs => { o with values := xs }]
  start := ⟨"", [], []⟩

/-- Reads an insertion. -/
def ofJson : Json → Decoded InsertOptions := recordType.decode

/-- Writes an insertion. -/
def toJson (o : InsertOptions) : Json :=
  .object [("table", .string o.table), ("columns", .ofTexts o.columns),
    ("values", .ofTexts o.values)]

end InsertOptions

namespace UpdateOptions

/-- The fields of an update. -/
def recordType : RecordType UpdateOptions where
  name := "UpdateOptions"
  fields :=
    [requiredField "table" asString fun o s => { o with table := s },
     requiredField "set" (asList asString) fun o xs => { o with assignments := xs },
     requiredField "where" asString fun o s => { o with predicate := s }]
  start := ⟨"", [], ""⟩

/-- Reads an update. -/
def ofJson : Json → Decoded UpdateOptions := recordType.decode

/-- Writes an update. -/
def toJson (o : UpdateOptions) : Json :=
  .object [("table", .string o.table), ("set", .ofTexts o.assignments),
    ("where", .string o.predicate)]

end UpdateOptions

namespace DeleteOptions

/-- The fields of a deletion. -/
def recordType : RecordType DeleteOptions where
  name := "DeleteOptions"
  fields :=
    [requiredField "table" asString fun o s => { o with table := s },
     requiredField "where" asString fun o s => { o with predicate := s }]
  start := ⟨"", ""⟩

/-- Reads a deletion. -/
def ofJson : Json → Decoded DeleteOptions := recordType.decode

/-- Writes a deletion. -/
def toJson (o : DeleteOptions) : Json :=
  .object [("table", .string o.table), ("where", .string o.predicate)]

end DeleteOptions

namespace Script

/-- Reads a script: a text, or a list of texts. -/
def ofJson (x : Json) : Decoded Script :=
  match asString x with
  | .ok sql => .ok (.single sql)
  | .error _ => match asList asString x with
    | .ok scripts => .ok (.batch scripts)
    | .error _ => .error (.noAlternative "SqlScript")

/-- Writes a script. -/
def toJson : Script → Json
  | single sql => .string sql
  | batch scripts => .ofTexts scripts

end Script

namespace Outcome

/-- The fields of an outcome. -/
def recordType : RecordType Outcome where
  name := "MutationOutcome"
  fields :=
    [requiredField "subrc" (asIntegerIn (-2147483648) 2147483647 "i32")
       fun o n => { o with subrc := Int32.ofInt n },
     requiredField "dbcnt" (asIntegerIn (-9223372036854775808) 9223372036854775807 "i64")
       fun o n => { o with dbcnt := Int64.ofInt n }]
  start := ok 0

/-- Reads an outcome. -/
def ofJson : Json → Decoded Outcome := recordType.decode

/-- Writes an outcome. -/
def toJson (o : Outcome) : Json :=
  .object [("subrc", .integer o.subrc.toInt), ("dbcnt", .integer o.dbcnt.toInt)]

end Outcome

namespace SessionConfig

/-- The fields of a configuration; each of them has a default. -/
def recordType : RecordType SessionConfig where
  name := "SessionConfig"
  fields :=
    [optionalField "context" asString fun c s => { c with context := s },
     optionalField "database" asString fun c s => { c with database := s },
     optionalField "trace" asBool fun c b => { c with trace := b },
     optionalField "busy_timeout_ms" (asIntegerIn 0 18446744073709551615 "u64")
       fun c n => { c with busyTimeout := UInt64.ofNat n.toNat }]
  start := {}

/-- Reads a configuration. -/
def ofJson : Json → Decoded SessionConfig := recordType.decode

/-- Writes a configuration. -/
def toJson (c : SessionConfig) : Json :=
  .object [("context", .string c.context), ("database", .string c.database),
    ("trace", .bool c.trace), ("busy_timeout_ms", .integer c.busyTimeout.toNat)]

end SessionConfig

/-- Writes a value; bytes become a list of numbers. -/
def Value.toJson : Value → Json
  | null => .null
  | integer n => .integer n.toInt
  | real x => .real x.toFloat
  | text s => .string s
  | blob bytes => .array (bytes.map fun b => .integer b.toNat)

/-- Writes a row as an object with a member for every column, in their order. -/
def Row.toJson (row : Row) : Json :=
  .object (row.columns.map fun (name, value) => (name, value.toJson))

/-- Writes the rows of a query or of a page. -/
def rowsToJson (rows : List Row) : Json := .object [("rows", .array (rows.map Row.toJson))]

end OpenSql
