/-
# OpenSql.Config.Document — configurations as TOML documents.

A document has one entry for each field, and every field may be left out.  Entries under other names
are passed over, but they must be well-formed.  The timeout goes through the format's integers, which
have a sign; a greater one cannot be written.
-/
import OpenSql.Config.Basic
import OpenSql.Toml.Reader

namespace OpenSql

open Toml (Entries Node)

/-- The words that stand for the format's own account of an error. -/
def formatReason : String := "<toml>"

namespace SessionConfig

/-- The greatest timeout that can be written. -/
def maxWritableTimeout : Nat := 9223372036854775807

/-- A key and a value on a line. -/
def entryLine (key : String) (value : List Char) : List Char :=
  key.toList ++ [' ', '=', ' '] ++ value ++ ['\n']

/-- The word for a truth value. -/
def truthChars (b : Bool) : List Char := (if b then "true" else "false").toList

/-- Writes a configuration as a document. -/
def toToml (config : SessionConfig) : Except ConfigError String :=
  if maxWritableTimeout < config.busyTimeout.toNat then
    .error (.unwritable "out-of-range value for u64 type")
  else
    .ok (String.ofList
      (entryLine "context" (Toml.writeString config.context.toList) ++
        entryLine "database" (Toml.writeString config.database.toList) ++
        entryLine "trace" (truthChars config.trace) ++
        entryLine "busy_timeout_ms" (Decimal.digits config.busyTimeout.toNat)))

/-- The text of a node. -/
def nodeText? : Node → Option String
  | .string s => some s
  | _ => none

/-- The truth value of a node. -/
def nodeFlag? : Node → Option Bool
  | .boolean b => some b
  | _ => none

/-- The number of milliseconds that a node holds. -/
def nodeTimeout? : Node → Option UInt64
  | .integer n => if 0 ≤ n ∧ n < 18446744073709551616 then some (UInt64.ofNat n.toNat) else none
  | _ => none

/-- Takes a field from its entry, or its default where there is no entry. -/
def field? (entries : Entries) (key : String) (read : Node → Option α) (default : α) : Option α :=
  match entries.get? key with
  | none => some default
  | some node => read node

/-- The configuration that the entries of a document hold. -/
def ofEntries? (entries : Entries) : Option SessionConfig := do
  let initial : SessionConfig := {}
  return {
    context := ← field? entries "context" nodeText? initial.context
    database := ← field? entries "database" nodeText? initial.database
    trace := ← field? entries "trace" nodeFlag? initial.trace
    busyTimeout := ← field? entries "busy_timeout_ms" nodeTimeout? initial.busyTimeout }

/-- Reads a configuration from the text of a document, and refuses blank names. -/
def ofToml (text : String) : Except ConfigError SessionConfig :=
  match (Toml.read? text.toList).bind ofEntries? with
  | none => .error (.malformed none formatReason)
  | some config => do
    config.validate
    return config

end SessionConfig

end OpenSql
