/-
# OpenSql.Engine.References — rows that refer to rows of other tables.

A row whose columns of a foreign key are all set needs a parent: a row whose key agrees with them.  A
row without one is an orphan.  A statement may not leave more orphans than it found; references that are
deferred are held to that by the transaction instead.
-/
import OpenSql.Engine.Table

namespace OpenSql.Engine

/-- The failure of a statement or a transaction that leaves orphans. -/
def orphanFailure : EngineFailure := .running .constraint "FOREIGN KEY constraint failed"

/-- The columns of a parent that a reference stands for. -/
def Table.parentColumns? (parent : Table) (fk : ForeignKey) : Option (List Nat) :=
  let sameColumns (a b : List Nat) : Bool :=
    a.length == b.length && a.all b.contains && b.all a.contains
  if fk.reference.parentColumns.isEmpty then
    match parent.rowidColumn with
    | some i => if fk.columns.length = 1 then some [i] else none
    | none => (parent.keys.find? fun key =>
        key.isPrimary && key.columns.length == fk.columns.length).map Key.columns
  else do
    let columns ← fk.reference.parentColumns.mapM
      (indexOfName? (parent.columns.map Column.name) ·)
    let isKey := columns == parent.rowidColumn.toList ||
      parent.keys.any fun key => sameColumns key.columns columns
    if isKey then some columns else none

namespace Database

/-- The parent of a reference with the columns that it stands for. -/
def parent (db : Database) (child : Table) (fk : ForeignKey) :
    Except EngineFailure (Table × List Nat) := do
  let name := fk.reference.parent
  let parent ← db.tableOrFail { schema := some mainSchema, name }
  match parent.parentColumns? fk with
  | some columns => return (parent, columns)
  | none => throw (generalFailure
      ("foreign key mismatch - \"" ++ child.name ++ "\" referencing \"" ++ name ++ "\""))

/-- The cells of a foreign key in the form that the parent's columns have. -/
def referringCells (parent : Table) (columns : List Nat) (fk : ForeignKey) (r : Record) :
    List Cell :=
  columns.zipWith (fun i c => (parent.affinity i).apply c) (r.cellsAt fk.columns)

/-- The row has no parent although it refers to one. -/
def isOrphan (db : Database) (child : Table) (fk : ForeignKey) (r : Record) : Bool :=
  if (r.cellsAt fk.columns).any Cell.isNull then false
  else match db.parent child fk with
    | .error _ => true
    | .ok (parent, columns) =>
      let cells := referringCells parent columns fk r
      !parent.records.any fun p => agree cells (p.cellsAt columns)

/-- The number of orphans under references that are deferred or not. -/
def orphans (db : Database) (deferred : Bool) : Nat :=
  totalOf (db.tables.flatMap fun child =>
    (child.foreignKeys.filter (·.reference.isDeferred == deferred)).map fun fk =>
      (child.records.filter (db.isOrphan child fk)).length)

/-- The references to a table, each with the table that it belongs to. -/
def referencesTo (db : Database) (name : String) : List (Table × ForeignKey) :=
  db.tables.flatMap fun child =>
    (child.foreignKeys.filter (Text.sameLetters name ·.reference.parent)).map (child, ·)

/-- The references of a table, and those to it that matter, stand for keys. -/
def checkReferences (db : Database) (t : Table) (toParents : ForeignKey → Bool)
    (toTable : ForeignKey → Bool) : Except EngineFailure Unit := do
  for fk in t.foreignKeys do
    if toParents fk then let _ ← db.parent t fk
  for (child, fk) in db.referencesTo t.name do
    if toTable fk then let _ ← db.parent child fk

end Database

end OpenSql.Engine
