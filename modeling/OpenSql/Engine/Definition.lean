/-
# OpenSql.Engine.Definition — tables from their definitions.

The columns are taken in the order in which they are written, each with its clauses, and then the
clauses of the table; the first mistake on this way is reported.  A primary key that consists of one
column of the type `INTEGER` is a name for the numbers of the rows; any other key is an index of its
own, unless an older one has the same columns.  Younger keys are checked first.
-/
import OpenSql.Engine.Scope
import OpenSql.Engine.Token

namespace OpenSql.Engine

/-- A table while it is being defined. -/
structure Draft where
  table : Table
  hasPrimaryKey : Bool := false
  /-- Conditions whose names are looked up when all columns are known. -/
  checks : List Check := []

namespace Draft

/-- How much room the cells of a type are expected to take. -/
def widthOf (typeName : List Char) : Nat :=
  let s := Text.lower typeName
  let size := Decimal.ofDigits ((s.dropWhile (!·.isDigit)).takeWhile Char.isDigit)
  let isSized := Text.containsExact "char".toList s || Text.containsExact "blob(".toList s
  if s.isEmpty || (Affinity.ofTypeName typeName).isNumeric then 1
  else min 255 ((if isSized then size else 16) / 4 + 1)

/-- Adds a key, unless the table has one with the same columns. -/
def addKey (d : Draft) (columns : List Nat) (isPrimary : Bool) (resolution : Option Resolution) :
    Except EngineFailure Draft :=
  match d.table.keys.find? (·.columns == columns) with
  | none =>
    let key : Key := { columns, isPrimary, resolution := resolution.getD .abort }
    .ok { d with table := { d.table with keys := key :: d.table.keys } }
  | some old =>
    let key : Key := { old with
      isPrimary := old.isPrimary || isPrimary
      resolution := if old.resolution = .abort then resolution.getD .abort else old.resolution }
    .ok { d with table := { d.table with
      keys := d.table.keys.map fun k => if k.columns == columns then key else k } }

/-- The columns of names in a key. -/
def keyColumns (d : Draft) (names : List String) : Except EngineFailure (List Nat) :=
  names.mapM fun name =>
    match indexOfName? (d.table.columns.map Column.name) name with
    | some i => .ok i
    | none => .error (generalFailure ("no such column: " ++ name))

/-- Adds a primary key; `isRowid` says that it is a name for the numbers of the rows. -/
def addPrimaryKey (d : Draft) (columns : List Nat) (isRowid autoincrement : Bool)
    (resolution : Option Resolution) : Except EngineFailure Draft :=
  if d.hasPrimaryKey then
    .error (generalFailure ("table \"" ++ d.table.name ++ "\" has more than one primary key"))
  else
    let d := { d with hasPrimaryKey := true }
    if isRowid then
      .ok { d with table := { d.table with
        rowidColumn := columns.head?, rowidResolution := resolution.getD .abort } }
    else if autoincrement then
      .error (generalFailure "AUTOINCREMENT is only allowed on an INTEGER PRIMARY KEY")
    else d.addKey columns true resolution

/-- Changes the youngest column. -/
def changeLast (d : Draft) (f : Column → Column) : Draft :=
  let columns := d.table.columns
  { d with table := { d.table with
    columns := columns.dropLast ++ (columns.getLast?.map f).toList } }

/-- Adds a reference. -/
def addReference (d : Draft) (columns : List Nat) (reference : Reference) :
    Except EngineFailure Draft :=
  let names := reference.parentColumns
  if names.isEmpty || names.length = columns.length then
    .ok { d with table := { d.table with
      foreignKeys := d.table.foreignKeys ++ [⟨columns, reference⟩] } }
  else .error (generalFailure ("number of columns in foreign key does not match the number of " ++
    "columns in the referenced table"))

/-- The type is the one of columns that can name the numbers of rows. -/
def isInteger (typeName : List Char) : Bool :=
  Text.sameLetters (String.ofList typeName) "integer"

/-- Adds a clause of the youngest column. -/
def addColumnClause (spec : ColumnSpec) (d : Draft) (clause : ColumnClause) :
    Except EngineFailure Draft :=
  let index := d.table.columns.length - 1
  match clause with
  | .primaryKey descending autoincrement resolution =>
    d.addPrimaryKey [index] (isInteger spec.typeName && !descending) autoincrement resolution
  | .notNull resolution =>
    .ok (d.changeLast fun c => { c with notNull := some (resolution.getD .abort) })
  | .unique resolution => d.addKey [index] false resolution
  | .check check => .ok { d with checks := d.checks ++ [check] }
  | .default e => match e.constant? with
    | some c => .ok (d.changeLast fun column => { column with default := c })
    | none =>
      .error (generalFailure ("default value of column [" ++ spec.name ++ "] is not constant"))
  | .references reference =>
    if reference.parentColumns.length ≤ 1 then d.addReference [index] reference
    else .error (generalFailure ("foreign key on " ++ spec.name ++
      " should reference only one column of table " ++ reference.parent))
  | .other => .ok d

/-- Adds a column with its clauses. -/
def addColumn (d : Draft) (spec : ColumnSpec) : Except EngineFailure Draft :=
  if (indexOfName? (d.table.columns.map Column.name) spec.name).isSome then
    .error (generalFailure ("duplicate column name: " ++ spec.name))
  else
    let column : Column :=
      { name := spec.name
        affinity := .ofTypeName spec.typeName
        width := widthOf spec.typeName }
    let d := { d with table := { d.table with columns := d.table.columns ++ [column] } }
    spec.clauses.foldlM (addColumnClause spec) d

/-- Adds a clause of the table. -/
def addTableClause (columns : List ColumnSpec) (d : Draft) (clause : TableClause) :
    Except EngineFailure Draft :=
  match clause with
  | .primaryKey names resolution => do
    let indexes ← d.keyColumns names
    let isRowid := match indexes with
      | [i] => ((columns[i]?).map fun c => isInteger c.typeName).getD false
      | _ => false
    d.addPrimaryKey indexes isRowid false resolution
  | .unique names resolution => do
    d.addKey (← d.keyColumns names) false resolution
  | .check check => .ok { d with checks := d.checks ++ [check] }
  | .foreignKey names reference => do
    let indexes ← names.mapM fun name =>
      match indexOfName? (d.table.columns.map Column.name) name with
      | some i => .ok i
      | none => .error (generalFailure
          ("unknown column \"" ++ name ++ "\" in foreign key definition"))
    d.addReference indexes reference

/-- Gives the keys their pages, the oldest one first. -/
def placeKeys (roots : List Nat) (keys : List Key) : List Key :=
  (keys.reverse.zipWith (fun key root => { key with root := root }) roots).reverse

end Draft

/-- The table of a definition. -/
def TableSpec.draft (spec : TableSpec) : Except EngineFailure Table := do
  let table : Table :=
    { name := spec.table.name
      definition := "CREATE TABLE " ++ String.ofList spec.text
      root := 0
      columns := [] }
  let d ← spec.columns.foldlM Draft.addColumn { table }
  let d ← spec.clauses.foldlM (Draft.addTableClause spec.columns) d
  let scope := Scope.ofTable d.table
  let checks ← d.checks.mapM fun check => do
    return (⟨check.name, ← scope.resolve check.condition⟩ : RowCheck)
  return { d.table with checks := checks }

/-- Adds the table of a definition to a database. -/
def Database.define (db : Database) (spec : TableSpec) : Except EngineFailure Database := do
  let name := spec.table.name
  let spelling := String.ofList (spec.text.take (Token.measure spec.text).2)
  match spec.table.schema with
  | some schema =>
    if !Text.sameLetters schema Database.mainSchema then
      throw (generalFailure ("unknown database " ++ schema))
  | none => pure ()
  if (Text.dropWord? "sqlite_".toList name.toList).isSome then
    throw (generalFailure ("object name reserved for internal use: " ++ name))
  if (db.table? name).isSome then
    if spec.onlyIfNew then return db
    throw (generalFailure ("table " ++ spelling ++ " already exists"))
  let table ← spec.draft
  let roots := db.freeRoots (table.keys.length + 1)
  return db.add { table with
    root := roots.headD 0, keys := Draft.placeKeys (roots.drop 1) table.keys }

end OpenSql.Engine
