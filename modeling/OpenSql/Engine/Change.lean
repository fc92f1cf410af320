/-
# OpenSql.Engine.Change — insertions, updates and deletions.

A change goes through its rows one by one and stores, replaces or removes them.  When a row stops it,
the resolution says whether what was done before stays.  Afterwards the rows that referred to rows
which are gone follow them as their references say, and no orphans may be left.
-/
import OpenSql.Engine.Query
import OpenSql.Engine.References
import OpenSql.Engine.Store

namespace OpenSql.Engine

/-- A row that is gone, and the row in its place if there is one. -/
structure Replacement where
  before : Record
  after : Option Record

/-- How far a change has come. -/
structure Progress where
  table : Table
  /-- The number of rows that it was asked to change. -/
  count : Nat := 0
  replacements : List Replacement := []

/-- What comes of a change. -/
structure Changed where
  db : Database
  count : Nat
  /-- Something was written. -/
  wrote : Bool
  /-- Why it stopped, and what becomes of what was done before. -/
  stop : Option (Resolution × EngineFailure)

/-! ## Rows that follow -/

/-- A row with other cells in some columns. -/
def Record.withCells (t : Table) (columns : List Nat) (cells : List Cell) (r : Record) : Record :=
  let cells := r.cells.mapIdx fun i c =>
    match (columns.zip cells).find? (·.1 == i) with
    | some (_, new) => (t.affinity i).apply new
    | none => c
  let rowid := match t.rowidColumn.bind (cells[·]?) with
    | some (.integer n) => n
    | _ => r.rowid
  ⟨rowid, cells⟩

/-- The cells that a row's foreign key gets when its parent goes or changes; `none` when the row goes
as well. -/
def ForeignKey.followedBy (t : Table) (fk : ForeignKey) (columns : List Nat)
    (after : Option Record) : ReferenceAction → Option (List Cell)
  | .cascade => after.map (·.cellsAt columns)
  | .setDefault => some (fk.columns.map fun i =>
      ((t.columns[i]?).map Column.default).getD .null)
  | _ => some (fk.columns.map fun _ => .null)

/-- Lets a row follow its parent. -/
def Table.follow (t : Table) (fk : ForeignKey) (cells : Option (List Cell)) (r : Record) :
    Except EngineFailure (Table × Replacement) :=
  match cells with
  | none => .ok (t.remove r.rowid, ⟨r, none⟩)
  | some cells =>
    match t.store none (some r) (r.withCells t fk.columns cells) with
    | .ok (c, new) => .ok (c.table, ⟨r, some new⟩)
    | .error (.stopped _ failure) => .error failure
    | .error .passedOver => .ok (t, ⟨r, some r⟩)

/-- Lets the rows that refer to replaced rows of a table follow them. -/
def Database.follow (fuel : Nat) (name : String) (replacements : List Replacement)
    (db : Database) : Except EngineFailure Database :=
  match fuel with
  | 0 => .ok db
  | fuel + 1 => (db.referencesTo name).foldlM (fun db (child, fk) =>
    match db.parent child fk with
    | .error _ => .ok db
    | .ok (parent, columns) => replacements.foldlM (fun db replacement => do
      let action := if replacement.after.isNone then fk.reference.onDelete
        else fk.reference.onUpdate
      let key := replacement.before.cellsAt columns
      let stays := (replacement.after.map fun r => agree key (r.cellsAt columns)).getD false
      if stays || action = .noAction then return db
      let child := (db.table? child.name).getD child
      let followers := child.records.filter fun r =>
        agree (Database.referringCells parent columns fk r) key
      let cells := fk.followedBy child columns replacement.after action
      let (child, replaced) ← followers.foldlM (fun (t, replaced) r => do
        let (t, replacement) ← t.follow fk cells r
        return (t, replaced ++ [replacement])) (child, [])
      (db.put child).follow fuel child.name replaced) db) db

/-- The number of rows of a database. -/
def Database.size (db : Database) : Nat := totalOf (db.tables.map (·.records.length))

/-! ## Running through rows -/

/-- Makes a step for every row, until one stops the change. -/
def throughRows {α : Type} (step : Progress → α → Except Refusal Progress) :
    List α → Progress → Progress × Option (Resolution × EngineFailure)
  | [], p => (p, none)
  | a :: rest, p =>
    match step p a with
    | .ok p => throughRows step rest p
    | .error .passedOver => throughRows step rest p
    | .error (.stopped resolution failure) => (p, some (resolution, failure))

/-- What comes of a change that went so far in a table of a database. -/
def Progress.finish (db : Database) (p : Progress) (wrote : Bool)
    (stop : Option (Resolution × EngineFailure)) : Changed :=
  let wrote := wrote || 0 < p.count
  let undone (resolution : Resolution) (failure : EngineFailure) : Changed :=
    ⟨db, 0, wrote, some (resolution, failure)⟩
  let settle (stop : Option (Resolution × EngineFailure)) : Changed :=
    match (db.put p.table).follow (db.size + 1) p.table.name p.replacements with
    | .error failure => undone .abort failure
    | .ok after =>
      if db.orphans false < after.orphans false then undone .abort orphanFailure
      else ⟨after, p.count, wrote, stop⟩
  match stop with
  | none => settle none
  | some (.fail, failure) => settle (some (.fail, failure))
  | some (resolution, failure) => undone resolution failure

/-! ## Insertions -/

/-- Where the rows of an insertion come from. -/
inductive InsertRows where
  | terms (rows : List (List Term))
  | query (q : Query)

/-- An insertion whose names are looked up. -/
structure Insertion where
  table : Table
  resolution : Option Resolution
  /-- For each column of the table the place of its value in a row, if it is given. -/
  places : List (Option Nat)
  /-- The place of the number of the row, if it is given. -/
  rowidPlace : Option Nat
  rows : InsertRows

namespace Insertion

/-- The row of some values. -/
def record (i : Insertion) (t : Table) (values : List Cell) : Except Refusal Record := do
  let given (place : Option Nat) : Option Cell := place.bind (values[·]?)
  let rowid ← match Affinity.numeric.apply ((given i.rowidPlace).getD .null) with
    | .null => pure t.nextRowid
    | .integer n => pure n
    | _ => throw mismatch
  let cells := (t.columns.zip i.places).mapIdx fun index (column, place) =>
    if t.rowidColumn = some index then .integer rowid
    else column.affinity.apply ((given place).getD column.default)
  return ⟨rowid, cells⟩

/-- Inserts the row of some values. -/
def step (i : Insertion) (p : Progress) (values : List Cell) : Except Refusal Progress := do
  let record ← i.record p.table values
  let (c, _) ← p.table.store i.resolution none record
  return ⟨c.table, p.count + 1, p.replacements ++ c.removed.map (⟨·, none⟩)⟩

/-- Inserts all rows. -/
def run (i : Insertion) (db : Database) : Except EngineFailure Changed := do
  let rows ← match i.rows with
    | .terms rows => pure (rows.map fun row => row.map Term.constantValue)
    | .query q => q.run
  let (p, stop) := throughRows i.step rows { table := i.table }
  return p.finish db false stop

end Insertion

/-! ## Updates -/

/-- An update whose names are looked up. -/
structure Updating where
  table : Table
  resolution : Option Resolution
  assignments : List (Nat × Term)
  condition : Term

namespace Updating

/-- The row in the place of an old one. -/
def record (u : Updating) (old : Record) : Except Refusal Record := do
  let t := u.table
  let assigned (i : Nat) : Option Cell :=
    (u.assignments.reverse.find? (·.1 == i)).map fun (_, term) => term.value [] old.read
  let rowid ← match assigned t.rowidIndex with
    | none => pure old.rowid
    | some c => match Affinity.numeric.apply c with
      | .integer n => pure n
      | _ => throw mismatch
  let cells := old.cells.mapIdx fun index c =>
    if t.rowidColumn = some index then .integer rowid
    else match assigned index with
      | some new => (t.affinity index).apply new
      | none => c
  return ⟨rowid, cells⟩

/-- Updates a row, if it is still there. -/
def step (u : Updating) (p : Progress) (old : Record) : Except Refusal Progress := do
  if (p.table.record? old.rowid).isNone then return p
  let record ← u.record old
  let (c, new) ← p.table.store u.resolution (some old) record
  return ⟨c.table, p.count + 1,
    p.replacements ++ c.removed.map (⟨·, none⟩) ++ [⟨old, some new⟩]⟩

/-- Updates the rows that meet the condition, in the order of their numbers. -/
def run (u : Updating) (db : Database) : Changed :=
  let rows := u.table.records.filter fun r => u.condition.holds r.read
  let (p, stop) := throughRows u.step rows { table := u.table }
  p.finish db false stop

end Updating

/-! ## Deletions -/

/-- A deletion whose names are looked up. -/
structure Deletion where
  table : Table
  condition : Option Term

/-- Deletes the rows that meet the condition; without one, all rows. -/
def Deletion.run (d : Deletion) (db : Database) : Changed :=
  let goes (r : Record) : Bool := (d.condition.map (·.holds r.read)).getD true
  let gone := d.table.records.filter goes
  let table := { d.table with records := d.table.records.filter (!goes ·) }
  let p : Progress := ⟨table, gone.length, gone.map (⟨·, none⟩)⟩
  p.finish db d.condition.isNone none

/-- Takes a table away, unless that leaves orphans. -/
def Database.dropTable (db : Database) (t : Table) : Except EngineFailure Database :=
  let emptied := db.put { t with records := [] }
  if db.orphans false < emptied.orphans false then .error orphanFailure
  else .ok (db.drop t.name)

end OpenSql.Engine
