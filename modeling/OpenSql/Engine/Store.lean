/-
# OpenSql.Engine.Store — putting one row into a table.

A row is stored when it keeps all constraints of its table.  They are looked at in a fixed order:
nulls, conditions, the number of the row, keys.  What becomes of a row that breaks one is said by the
statement, or else by the constraint: the row is passed over, or the rows in its way are removed, or
the statement stops.
-/
import OpenSql.Engine.Table

namespace OpenSql.Engine

/-- Why a row is not stored. -/
inductive Refusal where
  | passedOver
  /-- The statement stops, and the resolution says what becomes of its changes. -/
  | stopped (resolution : Resolution) (failure : EngineFailure)

/-- The refusal of a row that breaks a constraint. -/
def refusal (resolution : Resolution) (code : ResultCode) (message : String) : Refusal :=
  match resolution with
  | .ignore => .passedOver
  | r => .stopped r (.running code message)

/-- The refusal of a value that cannot be the number of a row. -/
def mismatch : Refusal := .stopped .abort (.running .special "datatype mismatch")

/-- A table with the rows that had to go from it. -/
structure Cleared where
  table : Table
  removed : List Record := []

namespace Table

/-- A column as messages name it. -/
def qualified (t : Table) (i : Nat) : String := t.name ++ "." ++ t.columnName i

/-- Puts the default in place of a null, or refuses it, in a column that admits none. -/
def withoutNull (t : Table) (statement : Option Resolution) (i : Nat) (column : Column) (c : Cell) :
    Except Refusal Cell :=
  match column.notNull with
  | none => .ok c
  | some resolution =>
    let message := "NOT NULL constraint failed: " ++ t.qualified i
    if !c.isNull || t.rowidColumn = some i then .ok c
    else match statement.getD resolution with
      | .replace =>
        if column.default.isNull then .error (refusal .abort .constraint message)
        else .ok column.default
      | r => .error (refusal r .constraint message)

/-- The cells of a row without nulls in columns that admit none. -/
def cellsWithoutNulls (t : Table) (statement : Option Resolution) (cells : List Cell) :
    Except Refusal (List Cell) :=
  ((t.columns.zip cells).mapIdx fun i (column, c) => (i, column, c)).mapM
    fun (i, column, c) => t.withoutNull statement i column c

/-- The row meets the conditions of the table; what is neither true nor false counts as met. -/
def meetsChecks (t : Table) (statement : Option Resolution) (r : Record) : Except Refusal Unit :=
  t.checks.forM fun check =>
    if (check.condition.value [] r.read).truth? == some false then
      let resolution := match statement with
        | some .replace => .abort
        | other => other.getD .abort
      .error (refusal resolution .constraint ("CHECK constraint failed: " ++ check.name))
    else .ok ()

/-- Removes rivals, if that is the resolution; refuses the row otherwise. -/
def clearRivals (c : Cleared) (resolution : Resolution) (rivals : List Record) (code : ResultCode)
    (columns : List String) : Except Refusal Cleared :=
  if rivals.isEmpty then .ok c
  else if resolution = .replace then
    .ok ⟨rivals.foldl (fun t r => t.remove r.rowid) c.table, c.removed ++ rivals⟩
  else .error (refusal resolution code
    ("UNIQUE constraint failed: " ++ String.intercalate ", " columns))

/-- Makes the number of the row free, unless it is the number that the row has already. -/
def clearRowid (statement : Option Resolution) (self : Option Int64) (r : Record) (c : Cleared) :
    Except Refusal Cleared :=
  let t := c.table
  if self = some r.rowid then .ok c
  else
    clearRivals c (statement.getD t.rowidResolution) (t.record? r.rowid).toList
      (if t.rowidColumn.isSome then .constraintPrimaryKey else .constraint)
      [t.qualified t.rowidIndex]

/-- Makes the cells of a key free. -/
def clearKey (statement : Option Resolution) (self : Option Int64) (r : Record) (c : Cleared)
    (key : Key) : Except Refusal Cleared :=
  clearRivals c (statement.getD key.resolution) (c.table.rivals key self r)
    (if key.isPrimary then .constraintPrimaryKey else .constraintUnique)
    (key.columns.map c.table.qualified)

/-- Stores a row, in place of an old one if there is one; says which other rows had to go. -/
def store (t : Table) (statement : Option Resolution) (old : Option Record) (new : Record) :
    Except Refusal (Cleared × Record) := do
  let cells ← t.cellsWithoutNulls statement new.cells
  let new := { new with cells }
  t.meetsChecks statement new
  let self := old.map Record.rowid
  let c ← clearRowid statement self new ⟨t, []⟩
  let c ← t.keys.foldlM (clearKey statement self new) c
  let t := match self with
    | some rowid => c.table.remove rowid
    | none => c.table
  return ({ c with table := t.put new }, new)

end Table

end OpenSql.Engine
