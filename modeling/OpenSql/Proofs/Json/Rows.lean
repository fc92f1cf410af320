/-
# OpenSql.Proofs.Json.Rows — what the text of a result tells of its rows.

Rows are written without a word on the kinds of their values: null, a number, a string or a list of numbers
is all that there is to see.  That is enough.  Apart from reals each kind has a form of its own, and the
names stay in their order and as often as they stand in the row.
-/
import OpenSql.Proofs.Json.Grammar
import OpenSql.Proofs.Json.Records
import OpenSql.Proofs.Lookup

namespace OpenSql

/-! ## Values -/

namespace Value

/-- The value is a real. -/
def isReal : Value → Bool
  | .real _ => true
  | _ => false

/-- The byte that a number stands for. -/
def byte? : Json → Option UInt8
  | .integer n => if 0 ≤ n ∧ n < 256 then some (UInt8.ofNat n.toNat) else none
  | _ => none

/-- The value that is written so, unless it is a real. -/
def ofJson? : Json → Option Value
  | .null => some .null
  | .integer n =>
    if -9223372036854775808 ≤ n ∧ n < 9223372036854775808 then some (.integer (Int64.ofInt n)) else none
  | .string s => some (.text s)
  | .array xs => (xs.mapM byte?).map .blob
  | _ => none

theorem byte?_toNat (b : UInt8) : byte? (.integer b.toNat) = some b := by
  have h := b.toNat_lt
  have hfits : (0 : Int) ≤ b.toNat ∧ (b.toNat : Int) < 256 := by omega
  rw [byte?, if_pos hfits, Int.toNat_natCast, UInt8.ofNat_toNat]

/-- The form of a value tells its kind. -/
theorem ofJson?_toJson {value : Value} (h : value.isReal = false) : ofJson? value.toJson = some value := by
  cases value with
  | null => rfl
  | integer n =>
      have hlow := n.le_toInt
      have hhigh := n.toInt_lt
      have hfits : -9223372036854775808 ≤ n.toInt ∧ n.toInt < 9223372036854775808 := by omega
      rw [toJson, ofJson?, if_pos hfits, Int64.ofInt_toInt]
  | real x => cases h
  | text s => rfl
  | blob bytes =>
      rw [toJson, ofJson?, Json.mapM_map_eq fun b _ => byte?_toNat b, List.map_id']
      rfl

theorem exact_toJson {value : Value} (h : value.isReal = false) (depth : Nat) :
    Json.Exact (depth + 1) value.toJson := by
  cases value with
  | null => exact .null
  | integer n =>
      have hlow := n.le_toInt
      have hhigh := n.toInt_lt
      exact .integer (by unfold Json.Fits; omega)
  | real x => cases h
  | text s => exact .string
  | blob bytes =>
      refine .array fun x hx => ?_
      obtain ⟨b, -, rfl⟩ := List.mem_map.mp hx
      have hb := b.toNat_lt
      exact .integer (by unfold Json.Fits; omega)

end Value

/-! ## Rows -/

/-- The column that a member is written for. -/
def Row.column? : String × Json → Option (String × Value)
  | (name, x) => (Value.ofJson? x).map (name, ·)

/-- The columns of a row that is written so. -/
def Row.columns? : Json → Option (List (String × Value))
  | .object members => members.mapM Row.column?
  | _ => none

/-- The columns of the rows of a result that is written so. -/
def resultColumns? : Json → Option (List (List (String × Value)))
  | .object [("rows", .array rows)] => rows.mapM Row.columns?
  | _ => none

/-- No value of the rows is a real. -/
def WithoutReals (rows : List Row) : Prop :=
  ∀ row ∈ rows, ∀ column ∈ row.columns, column.2.isReal = false

theorem Row.columns?_toJson {row : Row} (h : ∀ column ∈ row.columns, column.2.isReal = false) :
    Row.columns? row.toJson = some row.columns := by
  have hcolumn : ∀ column ∈ row.columns, Row.column? (column.1, column.2.toJson) = some column := by
    intro column hmem
    rw [Row.column?, Value.ofJson?_toJson (h column hmem)]
    rfl
  exact (Json.mapM_map_eq hcolumn).trans (congrArg some (List.map_id' _))

theorem resultColumns?_rowsToJson {rows : List Row} (h : WithoutReals rows) :
    resultColumns? (rowsToJson rows) = some (rows.map Row.columns) :=
  Json.mapM_map_eq fun row hrow => Row.columns?_toJson (h row hrow)

theorem exact_rowsToJson {rows : List Row} (h : WithoutReals rows) :
    Json.Exact Json.depthLimit (rowsToJson rows) := by
  refine .object fun m hm => ?_
  obtain rfl := List.mem_singleton.mp hm
  refine .array fun x hx => ?_
  obtain ⟨row, hrow, rfl⟩ := List.mem_map.mp hx
  refine .object fun m hm => ?_
  obtain ⟨column, hcolumn, rfl⟩ := List.mem_map.mp hm
  exact Value.exact_toJson (h row hrow column hcolumn) _

/-- The text of a result whose values are no reals.  It follows the grammar, and the reader finds one member
that holds the rows, each of them with one member for a column, in the order of the columns and with
repeated names as often as they are repeated.  From what the members hold every value comes back with its
kind. -/
theorem rows_read_back (rows : List Row) (h : WithoutReals rows) :
    let written := (Json.text (rowsToJson rows)).toList
    Json.Compact written ∧
    Json.read? written = some (.object [("rows", .array (rows.map fun row =>
      .object (row.columns.map fun column => (column.1, column.2.toJson))))]) ∧
    (Json.read? written).bind resultColumns? = some (rows.map Row.columns) := by
  intro written
  have hwritten : written = Json.print (rowsToJson rows) := String.toList_ofList
  have hexact := exact_rowsToJson h
  have hread : Json.read? written = some (rowsToJson rows) := by
    rw [hwritten]
    exact Json.read?_print hexact
  refine ⟨?_, hread, ?_⟩
  · rw [hwritten]
    exact hexact.compact
  · rw [hread]
    exact resultColumns?_rowsToJson h

/-- Columns with thorny texts, among them two of one name, and a row without columns. -/
def thornyColumns : List (List (String × Value)) :=
  [[("a\"", .text "\\ \"\x00\n\x7f"), ("a\"", .blob []), ("", .null)], [],
    [("n", .integer (-9223372036854775808)), ("N", .blob [0, 255]), ("n", .integer 0)]]

theorem rows_read_back_thorny :
    (Json.read? (Json.text (rowsToJson (thornyColumns.map Row.ofColumns))).toList).bind resultColumns? =
      some thornyColumns := by
  have hcolumns (columns : List (String × Value)) : (Row.ofColumns columns).columns = columns :=
    (Row.holds_ofColumns columns).columns_eq
  have hreals : WithoutReals (thornyColumns.map Row.ofColumns) := by
    intro row hrow
    obtain ⟨columns, hmem, rfl⟩ := List.mem_map.mp hrow
    rw [hcolumns]
    exact (by decide : ∀ columns ∈ thornyColumns, ∀ column ∈ columns, column.2.isReal = false) columns hmem
  rw [(rows_read_back _ hreals).2.2, List.map_map]
  exact congrArg some (List.map_id'' hcolumns thornyColumns)

end OpenSql
