/-
# OpenSql.Engine.Plan — statements made ready to run.

The names of a statement are looked up in the tables of a database, and the first mistake is reported.
What is left can be run: it reads rows, changes rows, or changes the tables themselves.
-/
import OpenSql.Engine.Change
import OpenSql.Engine.Definition

namespace OpenSql.Engine

/-- A statement on tables, ready to run. -/
inductive Plan where
  | query (q : Query)
  | insert (i : Insertion)
  | update (u : Updating)
  | delete (d : Deletion)
  /-- A definition, with the database that it leads to. -/
  | define (after : Database)
  | dropTable (t : Table)
  /-- The tables are as the statement wants them. -/
  | nothing

/-- What a plan needs of a database. -/
inductive Need where
  | nothing
  | reading
  | writing
deriving DecidableEq

namespace Plan

/-- What the plan needs. -/
def need : Plan → Need
  | query q => if q.table.isSome then .reading else .nothing
  | nothing => .reading
  | _ => .writing

/-- The table that a change is made to. -/
def target (db : Database) (source : Source) : Except EngineFailure Table := do
  let t ← db.tableOrFail source.table
  if (indexOfName? Database.catalogNames t.name).isSome then
    throw (generalFailure ("table " ++ t.name ++ " may not be modified"))
  return t

/-- The name of a target in messages. -/
def targetName (source : Source) : String := source.label.getD source.table.text

/-- The columns that the values of an insertion are for. -/
def insertedColumns (t : Table) (source : Source) :
    Option (List String) → Except EngineFailure (List Nat)
  | none => .ok (List.range t.columns.length)
  | some names => names.mapM fun name =>
    match t.columnIndex? name with
    | some i => .ok i
    | none => .error (generalFailure
        ("table " ++ targetName source ++ " has no column named " ++ name))

/-- Looks up the names in rows of values, the last row first, and compares their lengths. -/
def resolveRows : List (List Expr) → Except EngineFailure (List (List Term))
  | [] => .ok []
  | [row] => do return [← Scope.resolveAll {} row]
  | row :: next :: rest => do
    let rest ← resolveRows (next :: rest)
    let terms ← Scope.resolveAll {} row
    if row.length != next.length then
      throw (generalFailure "all VALUES must have the same number of terms")
    return terms :: rest

/-- The rows of an insertion, with the number of values in each. -/
def insertedRows (db : Database) : InsertSource → Except EngineFailure (InsertRows × Nat)
  | .defaults => .ok (.terms [[]], 0)
  | .values rows => do
    let terms ← resolveRows rows
    return (.terms terms, ((terms.head?).map List.length).getD 0)
  | .query s => do
    let q ← Query.ofStatement db s
    return (.query q, q.terms.length)

/-- The number of values is the number of columns. -/
def checkCounts (t : Table) (source : Source) (columns : Option (List String)) (values : Nat) :
    Except EngineFailure Unit :=
  match columns with
  | none =>
    if values = t.columns.length then .ok ()
    else .error (generalFailure ("table " ++ targetName source ++ " has " ++
      Decimal.text t.columns.length ++ " columns but " ++ Decimal.text values ++
      " values were supplied"))
  | some names =>
    if values = names.length then .ok ()
    else .error (generalFailure
      (Decimal.text values ++ " values for " ++ Decimal.text names.length ++ " columns"))

/-- Makes an insertion ready. -/
def ofInsert (db : Database) (resolution : Option Resolution) (source : Source)
    (columns : Option (List String)) (rows : InsertSource) : Except EngineFailure Plan := do
  let t ← target db source
  let indexes ← insertedColumns t source columns
  let (inserted, count) ← insertedRows db rows
  let isMany := match rows with
    | .values [_] => false
    | .defaults => false
    | _ => true
  let place (i : Nat) : Option Nat :=
    match rows with
    | .defaults => none
    | _ => indexes.idxOf? i
  match rows with
  | .defaults => pure ()
  | _ => checkCounts t source columns count
  db.checkReferences t (fun _ => true) fun fk => fk.reference.isDeferred || isMany
  return .insert {
    table := t
    resolution
    places := (List.range t.columns.length).map place
    rowidPlace := place t.rowidIndex
    rows := inserted }

/-- The reference stands for one of some columns of its parent. -/
def standsFor (parent : Table) (columns : List Nat) (fk : ForeignKey) : Bool :=
  let names := fk.reference.parentColumns
  let primary := parent.rowidColumn.toList ++
    ((parent.keys.filter Key.isPrimary).flatMap Key.columns)
  columns.any fun i =>
    if names.isEmpty then primary.contains i
    else (indexOfName? names (parent.columnName i)).isSome

/-- Makes an update ready. -/
def ofUpdate (db : Database) (resolution : Option Resolution) (source : Source)
    (assignments : List (String × Expr)) (condition : Option Expr) :
    Except EngineFailure Plan := do
  let t ← target db source
  let scope := Scope.ofSource t source
  let assignments ← assignments.mapM fun (name, e) => do
    let term ← scope.resolve e
    match t.columnIndex? name with
    | some i => return (i, term)
    | none => throw (generalFailure ("no such column: " ++ name))
  let condition ← scope.resolveCondition condition
  let changed := assignments.map (·.1)
  db.checkReferences t (fun fk => fk.columns.any changed.contains) (standsFor t changed)
  return .update { table := t, resolution, assignments, condition }

/-- Makes a deletion ready. -/
def ofDelete (db : Database) (source : Source) (condition : Option Expr) :
    Except EngineFailure Plan := do
  let t ← target db source
  let condition ← condition.mapM (Scope.ofSource t source).resolve
  db.checkReferences t (fun _ => true) fun _ => true
  return .delete { table := t, condition }

/-- Makes a removal of a table ready. -/
def ofDropTable (db : Database) (name : TableName) (onlyIfThere : Bool) :
    Except EngineFailure Plan :=
  match db.find? name with
  | none =>
    if onlyIfThere then .ok .nothing
    else .error (generalFailure ("no such table: " ++ name.text))
  | some t =>
    if (indexOfName? Database.catalogNames t.name).isSome then
      .error (generalFailure ("table " ++ t.name ++ " may not be dropped"))
    else .ok (.dropTable t)

/-- Makes a removal of a view ready; there are no views. -/
def ofDropView (db : Database) (name : TableName) (onlyIfThere : Bool) :
    Except EngineFailure Plan :=
  match db.find? name with
  | none =>
    if onlyIfThere then .ok .nothing
    else .error (generalFailure ("no such view: " ++ name.text))
  | some t => .error (generalFailure
      (if (indexOfName? Database.catalogNames t.name).isSome then
        "table " ++ t.name ++ " may not be dropped"
      else "use DROP TABLE to delete table " ++ t.name))

/-- Makes a definition ready. -/
def ofCreateTable (db : Database) (spec : TableSpec) : Except EngineFailure Plan := do
  let after ← db.define spec
  return if after.tables.length = db.tables.length then .nothing else .define after

end Plan

end OpenSql.Engine
