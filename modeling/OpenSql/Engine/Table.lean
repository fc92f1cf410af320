/-
# OpenSql.Engine.Table — tables, their keys, and the rows in them.

Every row has a number, and a table keeps its rows in the order of these numbers.  One column may be
a name for the number; its cell is then the number itself.  A key is a list of columns in which no two
rows agree, where null agrees with nothing.  Names are compared whatever the case of their letters.
-/
import OpenSql.Engine.Statement
import OpenSql.Engine.Term
import OpenSql.Fault

namespace OpenSql.Engine

/-! ## Rows -/

/-- A row with its number. -/
structure Record where
  rowid : Int64
  cells : List Cell

/-- Reads a column of a row; the number behind the last column reads the row's own number. -/
def Record.read (r : Record) : RowReader := fun i => r.cells[i]?.getD (.integer r.rowid)

/-! ## Tables -/

/-- A column of a table. -/
structure Column where
  name : String
  affinity : Affinity
  /-- How much room its cells are expected to take. -/
  width : Nat
  /-- What becomes of a null, if the column does not admit any. -/
  notNull : Option Resolution := none
  /-- The cell of a row that does not say otherwise. -/
  default : Cell := .null

/-- Columns in which no two rows agree. -/
structure Key where
  columns : List Nat
  isPrimary : Bool
  resolution : Resolution := .abort
  /-- The page where its index begins. -/
  root : Nat := 0

/-- A condition on the rows of a table, with the name that messages give it. -/
structure RowCheck where
  name : String
  condition : Term

/-- Columns whose cells must stand in the key of a parent row. -/
structure ForeignKey where
  columns : List Nat
  reference : Reference

/-- A table. -/
structure Table where
  name : String
  /-- The text that defines it. -/
  definition : String
  /-- The page where its rows begin. -/
  root : Nat
  columns : List Column
  /-- The column that is a name for the numbers of the rows. -/
  rowidColumn : Option Nat := none
  rowidResolution : Resolution := .abort
  /-- The keys in the order in which they are checked. -/
  keys : List Key := []
  checks : List RowCheck := []
  foreignKeys : List ForeignKey := []
  records : List Record := []

/-- The names of the numbers of rows. -/
def rowidNames : List String := ["rowid", "_rowid_", "oid"]

/-- The number of the first of the names that is the given one. -/
def indexOfName? (names : List String) (name : String) : Option Nat :=
  names.findIdx? (Text.sameLetters name ·)

namespace Table

/-- The number of the column that reads the numbers of the rows. -/
def rowidIndex (t : Table) : Nat := t.rowidColumn.getD t.columns.length

/-- The number of the column with a name; the names of row numbers are columns too, unless another
column has that name. -/
def columnIndex? (t : Table) (name : String) : Option Nat :=
  match indexOfName? (t.columns.map Column.name) name with
  | some i => some i
  | none => if (indexOfName? rowidNames name).isSome then some t.rowidIndex else none

/-- The affinity of a column by its number. -/
def affinity (t : Table) (i : Nat) : Affinity :=
  ((t.columns[i]?).map Column.affinity).getD .integer

/-- The name of a column by its number. -/
def columnName (t : Table) (i : Nat) : String :=
  ((t.columns[i]?).map Column.name).getD "rowid"

/-- The row with a number. -/
def record? (t : Table) (rowid : Int64) : Option Record :=
  t.records.find? (·.rowid == rowid)

/-- Puts a row in its place, instead of the row with the same number. -/
def put (t : Table) (r : Record) : Table :=
  { t with records := t.records.filter (·.rowid < r.rowid) ++
      r :: t.records.filter (r.rowid < ·.rowid) }

/-- Takes rows away. -/
def remove (t : Table) (rowid : Int64) : Table :=
  { t with records := t.records.filter (·.rowid != rowid) }

/-- The number of a row that says nothing about its number: one above the greatest. -/
def nextRowid (t : Table) : Int64 :=
  match t.records.getLast? with
  | none => 1
  | some r => r.rowid + 1

end Table

/-- The cells of some columns of a row. -/
def Record.cellsAt (r : Record) (columns : List Nat) : List Cell := columns.map r.read

/-- Two lists of cells agree: none is null, and they are equal one by one. -/
def agree : List Cell → List Cell → Bool
  | [], [] => true
  | a :: as, b :: bs => !a.isNull && Cell.compare a b == .eq && agree as bs
  | _, _ => false

/-- The order of two lists of cells. -/
def compareCells : List Cell → List Cell → Ordering
  | [], [] => .eq
  | [], _ :: _ => .lt
  | _ :: _, [] => .gt
  | a :: as, b :: bs => (Cell.compare a b).then (compareCells as bs)

/-- The rows other than the one with a given number that agree with a row in a key. -/
def Table.rivals (t : Table) (key : Key) (self : Option Int64) (r : Record) : List Record :=
  t.records.filter fun other =>
    some other.rowid != self && agree (r.cellsAt key.columns) (other.cellsAt key.columns)

/-- The rows in the order of a key; rows that agree keep the order of their numbers. -/
def Table.inOrderOf (t : Table) (key : Key) : List Record :=
  t.records.mergeSort fun a b =>
    compareCells (a.cellsAt key.columns) (b.cellsAt key.columns) != .gt

/-- The sum of some numbers. -/
def totalOf (ns : List Nat) : Nat := ns.foldl (· + ·) 0

/-! ## Databases -/

/-- The tables of a database, in the order of their creation. -/
structure Database where
  tables : List Table := []

namespace Database

/-- The name of the schema that every database has. -/
def mainSchema : String := "main"

/-- The names of the table of tables. -/
def catalogNames : List String := ["sqlite_master", "sqlite_schema"]

/-- The row of a table or of one of its keys in the table of tables. -/
def catalogCells (kind name table : String) (root : Nat) (definition : Cell) : List Cell :=
  [.ofString kind, .ofString name, .ofString table, .integer (Int64.ofNat root), definition]

/-- The rows of a table and its keys in the table of tables, the oldest key first. -/
def catalogRows (t : Table) : List (List Cell) :=
  catalogCells "table" t.name t.name t.root (.ofString t.definition) ::
    t.keys.reverse.mapIdx fun i key =>
      catalogCells "index" ("sqlite_autoindex_" ++ t.name ++ "_" ++ Decimal.text (i + 1)) t.name
        key.root .null

/-- The table of tables. -/
def catalog (db : Database) : Table :=
  let column (name : String) (affinity : Affinity) (width : Nat) : Column :=
    { name, affinity, width }
  let rows := db.tables.flatMap catalogRows
  { name := "sqlite_master"
    definition := ""
    root := 1
    columns := [column "type" .text 5, column "name" .text 5, column "tbl_name" .text 5,
      column "rootpage" .integer 1, column "sql" .text 5]
    records := rows.mapIdx fun i cells => ⟨Int64.ofNat (i + 1), cells⟩ }

/-- The table with a name. -/
def table? (db : Database) (name : String) : Option Table :=
  if (indexOfName? catalogNames name).isSome then some db.catalog
  else db.tables.find? (Text.sameLetters name ·.name)

/-- The table that a name with an optional schema stands for. -/
def find? (db : Database) (name : TableName) : Option Table :=
  match name.schema with
  | none => db.table? name.name
  | some schema => if Text.sameLetters schema mainSchema then db.table? name.name else none

/-- Puts a table instead of the one with its name. -/
def put (db : Database) (t : Table) : Database :=
  ⟨db.tables.map fun other => if Text.sameLetters t.name other.name then t else other⟩

/-- Adds a table. -/
def add (db : Database) (t : Table) : Database := ⟨db.tables ++ [t]⟩

/-- Takes a table away. -/
def drop (db : Database) (name : String) : Database :=
  ⟨db.tables.filter fun t => !Text.sameLetters name t.name⟩

/-- The pages where tables and indexes begin. -/
def roots (db : Database) : List Nat :=
  1 :: db.tables.flatMap fun t => t.root :: t.keys.map Key.root

/-- Pages where nothing begins yet. -/
def freeRoots (db : Database) (count : Nat) : List Nat :=
  let used := db.roots
  ((List.range (used.length + count + 1)).filter fun n => 0 < n && !used.contains n).take count

end Database

/-- A failure with the general code. -/
def generalFailure (message : String) : EngineFailure := .running .general message

/-- The table that a name stands for, or the failure that there is none. -/
def Database.tableOrFail (db : Database) (name : TableName) : Except EngineFailure Table :=
  match db.find? name with
  | some t => .ok t
  | none => .error (generalFailure ("no such table: " ++ name.text))

end OpenSql.Engine
