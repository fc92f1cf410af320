/-
# OpenSql.Json.Decode — records from JSON values, with an exact account of what does not fit.

A record is read from an object or from an array.  Of an object the members are taken in the order
of their names; unknown names are passed over, the first member that does not fit is reported, and
after that the first field in the record's own order that is missing and has no default.  An array
holds the fields in the record's order; fields with a default may be left off its end.
-/
import OpenSql.Decimal.NumberFormat
import OpenSql.Text.Quoted
import OpenSql.Json.Basic

namespace OpenSql.Json

/-- What a value is, in the words of a message. -/
inductive Found where
  | null
  | bool (b : Bool)
  | integer (n : Int)
  | real (x : Float)
  | string (s : String)
  | sequence
  | map

/-- Why a value does not fit. -/
inductive DecodeError where
  /-- A value of another type. -/
  | wrongType (found : Found) (expected : String)
  /-- A number out of range. -/
  | wrongValue (found : Found) (expected : String)
  | missingField (name : String)
  | wrongLength (length : Nat) (expected : String)
  /-- No alternative of the type fits. -/
  | noAlternative (typeName : String)

/-- What a value is. -/
def found : Json → Found
  | null => .null
  | bool b => .bool b
  | integer n => .integer n
  | real x => .real x
  | string s => .string s
  | array _ => .sequence
  | object _ => .map

/-- Messages write reals positionally, whatever their exponent. -/
def messageRealFormat : Decimal.NumberFormat := ⟨none, 1, false, .toEven⟩

/-- The words for a value. -/
def Found.text : Found → String
  | null => "null"
  | bool b => "boolean \x60" ++ (if b then "true" else "false") ++ "\x60"
  | integer n => "integer \x60" ++ Decimal.signedText n ++ "\x60"
  | real x => "floating point \x60" ++ (match Decimal.Double.ofFloat x with
      | .finite negative magnitude => messageRealFormat.writeShortest negative magnitude
      | .infinite true => "-inf"
      | .infinite false => "inf"
      | .notANumber => "NaN") ++ "\x60"
  | string s => "string " ++ Text.quoted s
  | sequence => "sequence"
  | map => "map"

/-- The words for an error. -/
def DecodeError.message : DecodeError → String
  | wrongType found expected => "invalid type: " ++ found.text ++ ", expected " ++ expected
  | wrongValue found expected => "invalid value: " ++ found.text ++ ", expected " ++ expected
  | missingField name => "missing field \x60" ++ name ++ "\x60"
  | wrongLength length expected =>
    "invalid length " ++ Decimal.text length ++ ", expected " ++ expected
  | noAlternative typeName => "data did not match any variant of untagged enum " ++ typeName

/-- The result of reading a value. -/
abbrev Decoded (α : Type) := Except DecodeError α

/-- Reads a text. -/
def asString : Json → Decoded String
  | string s => .ok s
  | x => .error (.wrongType x.found "a string")

/-- Reads a truth value. -/
def asBool : Json → Decoded Bool
  | bool b => .ok b
  | x => .error (.wrongType x.found "a boolean")

/-- Reads a list. -/
def asList (element : Json → Decoded α) : Json → Decoded (List α)
  | array xs => xs.mapM element
  | x => .error (.wrongType x.found "a sequence")

/-- Reads a value, or nothing from `null`. -/
def asOption (value : Json → Decoded α) : Json → Decoded (Option α)
  | null => .ok none
  | x => (value x).map some

/-- Reads an integer between two bounds; the name of the type goes into the message. -/
def asIntegerIn (low high : Int) (typeName : String) : Json → Decoded Int
  | integer n =>
    if low ≤ n ∧ n ≤ high then .ok n else .error (.wrongValue (.integer n) typeName)
  | x => .error (.wrongType x.found typeName)

/-- One field of a record under construction. -/
structure RecordField (σ : Type) where
  name : String
  /-- Reads the field's value and sets it. -/
  set : Json → σ → Decoded σ
  required : Bool

/-- A record type: its name, its fields in their order, and a record to start from. -/
structure RecordType (σ : Type) where
  name : String
  fields : List (RecordField σ)
  start : σ

namespace RecordType

/-- Puts a member into a list that is ordered by name, in the place of one of the same name. -/
def insertMember (m : String × Json) : List (String × Json) → List (String × Json)
  | [] => [m]
  | n :: rest =>
    if m.1 == n.1 then m :: rest
    else if m.1 < n.1 then m :: n :: rest
    else n :: insertMember m rest

/-- The members ordered by name; of several with one name the last one. -/
def sortedMembers (members : List (String × Json)) : List (String × Json) :=
  members.foldl (fun sorted m => insertMember m sorted) []

/-- The words for the record and its length. -/
def withElements (r : RecordType σ) : String :=
  "struct " ++ r.name ++ " with " ++ Decimal.text r.fields.length ++ " elements"

/-- Sets the fields that the members name, one after another. -/
def setMembers (r : RecordType σ) : List (String × Json) → σ → Decoded σ
  | [], record => .ok record
  | (name, value) :: rest, record =>
    match r.fields.find? (·.name == name) with
    | none => setMembers r rest record
    | some field => do
      let record ← field.set value record
      setMembers r rest record

/-- The first required field that no member names. -/
def missing? (r : RecordType σ) (members : List (String × Json)) : Option (RecordField σ) :=
  r.fields.find? fun field => field.required && !members.any (·.1 == field.name)

/-- Sets the fields from the elements in their order; `place` fields are set already. -/
def setElements (r : RecordType σ) (place : Nat) :
    List (RecordField σ) → List Json → σ → Decoded σ
  | [], [], record => .ok record
  | [], rest, _ => .error (.wrongLength (place + rest.length) "fewer elements in array")
  | field :: fields, [], record =>
    if field.required then .error (.wrongLength place r.withElements)
    else setElements r (place + 1) fields [] record
  | field :: fields, x :: rest, record => do
    let record ← field.set x record
    setElements r (place + 1) fields rest record

/-- Reads a record. -/
def decode (r : RecordType σ) : Json → Decoded σ
  | object members => do
    let sorted := sortedMembers members
    let record ← r.setMembers sorted r.start
    match r.missing? sorted with
    | some field => .error (.missingField field.name)
    | none => .ok record
  | array elements => r.setElements 0 r.fields elements r.start
  | x => .error (.wrongType x.found ("struct " ++ r.name))

end RecordType

end OpenSql.Json
