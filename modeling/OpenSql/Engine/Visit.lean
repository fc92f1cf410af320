/-
# OpenSql.Engine.Visit — the order in which the rows of a table are visited.

The rows that meet a condition do not depend on the order of the visit, but rows that a query leaves
unordered come out in it.  Rows are visited by their numbers, unless a key finds them faster: when the
condition pins down the first column of the key, or leaves it a range, when the query orders by it, or
when the key holds all that the query reads and is narrower than the table.
-/
import OpenSql.Engine.Table

namespace OpenSql.Engine

/-! ## What a condition says about columns -/

/-- How a condition confines a column. -/
inductive Pin where
  /-- To one of some values. -/
  | values
  /-- To a range. -/
  | range
deriving DecidableEq

namespace Term

/-- The term reads no column. -/
def isFixed (a : Term) : Bool := a.columns.isEmpty

/-- The column that is compared with something fixed. -/
def comparedColumn? : Term → Term → Option Nat
  | column i _, b => if b.isFixed then some i else none
  | a, column i _ => if a.isFixed then some i else none
  | _, _ => none

/-- How a comparison confines a column. -/
def pinOf? : Comparison → Option Pin
  | .equal => some .values
  | .notEqual => none
  | _ => some .range

/-- The column that a term confines when it holds. -/
def pin? : Term → Option (Nat × Pin)
  | compare op _ a b => do return (← comparedColumn? a b, ← pinOf? op)
  | same false _ a b => (comparedColumn? a b).map (·, .values)
  | inList false _ (column i _) items =>
    if (columnsOf items).isEmpty then some (i, .values) else none
  | binary .or a b =>
    match a.pin?, b.pin? with
    | some (i, .values), some (j, .values) => if i = j then some (i, .values) else none
    | _, _ => none
  | _ => none

/-- The columns that a condition confines. -/
def pins (condition : Term) : List (Nat × Pin) := condition.conjuncts.filterMap pin?

end Term

/-! ## Widths -/

/-- Tenths of the binary logarithm of a number, roughly. -/
def roughLog (n : Nat) : Nat :=
  if n < 2 then 0
  else 10 * n.log2 + [0, 2, 3, 5, 6, 7, 8, 9].getD (n * 8 / Nat.pow 2 n.log2 % 8) 0

namespace Table

/-- The expected width of a row. -/
def width (t : Table) : Nat :=
  totalOf (t.columns.map Column.width) + if t.rowidColumn.isSome then 0 else 1

/-- The expected width of an entry of a key. -/
def keyWidth (t : Table) (key : Key) : Nat :=
  totalOf (key.columns.map fun i => ((t.columns[i]?).map Column.width).getD 1) + 1

/-- The key holds all of some columns; it always holds the numbers of the rows. -/
def covers (t : Table) (key : Key) (columns : List Nat) : Bool :=
  columns.all fun i => i == t.rowidIndex || key.columns.contains i

/-- The narrowest of the keys that hold all of some columns and are narrower than the table. -/
def coveringKey? (t : Table) (columns : List Nat) : Option Key :=
  let size (key : Key) : Nat := roughLog (4 * t.keyWidth key)
  let keys := t.keys.filter fun key => t.covers key columns && size key < roughLog (4 * t.width)
  keys.foldl (fun best key =>
    match best with
    | none => some key
    | some b => if size key < size b then some key else some b) none

/-! ## The visit -/

/-- The number of columns at the front of a key that are pinned to values. -/
def pinnedLength (pins : List (Nat × Pin)) (key : Key) : Nat :=
  (key.columns.takeWhile fun i => pins.contains (i, .values)).length

/-- The key with the most columns at its front pinned to values, if there is one. -/
def pinnedKey? (t : Table) (pins : List (Nat × Pin)) : Option Key :=
  t.keys.foldl (fun best key =>
    let n := pinnedLength pins key
    match best with
    | none => if 0 < n then some key else none
    | some b => if pinnedLength pins b < n then some key else some b) none

/-- The visit of rows that are pinned to values. -/
def visitPinned? (t : Table) (pins : List (Nat × Pin)) : Option (List Record) :=
  if pins.contains (t.rowidIndex, .values) then some t.records
  else (t.pinnedKey? pins).map t.inOrderOf

/-- The visit of rows of which each meets one of some conditions, each of which pins rows to values:
condition by condition, and every row once. -/
def visitEither? (t : Table) (conditions : List Term) : Option (List Record) := do
  if conditions.length < 2 then none
  let visits ← conditions.mapM fun c =>
    (t.visitPinned? c.pins).map fun records => records.filter fun r => c.holds r.read
  return visits.flatten.foldl (fun seen r =>
    if seen.any (·.rowid == r.rowid) then seen else seen ++ [r]) []

/-- The first column that an order depends on, with its direction; columns pinned to values do not
matter. -/
def leadingOrder? (pins : List (Nat × Pin)) : List (Term × Bool) → Option (Nat × Bool)
  | [] => none
  | (.column i _, descending) :: rest =>
    if pins.contains (i, .values) then leadingOrder? pins rest else some (i, descending)
  | (a, _) :: rest => if a.isFixed then leadingOrder? pins rest else none

/-- The visit in the order that a query asks for. -/
def visitOrdered? (t : Table) (pins : List (Nat × Pin)) (order : List (Term × Bool)) :
    Option (List Record) := do
  let (i, descending) ← leadingOrder? pins order
  let records ← if i = t.rowidIndex then some t.records
    else (t.keys.find? (·.columns.head? == some i)).map t.inOrderOf
  return if descending then records.reverse else records

/-- The visit along a key whose first column is left a range. -/
def visitRange? (t : Table) (pins : List (Nat × Pin)) (columns : List Nat) :
    Option (List Record) := do
  let isRanged (i : Nat) : Bool := pins.contains (i, .range)
  let key ← t.keys.find? fun key => (key.columns.head?.map isRanged).getD false
  if isRanged t.rowidIndex && !t.covers key columns then some t.records
  else some (t.inOrderOf key)

/-- The rows of a table in the order in which a query visits them: a query that reads some columns of
the rows that meet a condition, and that orders them by some terms. -/
def visit (t : Table) (condition : Term) (order : List (Term × Bool)) (columns : List Nat) :
    List Record :=
  let pins := condition.pins
  let first? : Option (List Record) :=
    t.visitPinned? pins
      <|> condition.conjuncts.findSome? (fun c => t.visitEither? c.disjuncts)
      <|> t.visitOrdered? pins order
      <|> t.visitRange? pins columns
  match first? with
  | some records => records
  | none =>
    if pins.contains (t.rowidIndex, .range) then t.records
    else match t.coveringKey? columns with
      | some key => t.inOrderOf key
      | none => t.records

end Table

end OpenSql.Engine
