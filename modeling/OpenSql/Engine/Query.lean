/-
# OpenSql.Engine.Query — queries.

A query is prepared against the tables of a database: its names are looked up in the order in which
mistakes are reported, which is the table, the limit, the result columns, the condition and the
ordering.  Then it is run: the rows of the table are visited, kept when they meet the condition, turned
into results, ordered and cut.  With an aggregate there is one result for all rows.
-/
import OpenSql.Engine.Scope
import OpenSql.Engine.Visit

namespace OpenSql.Engine

/-- One term of an ordering. -/
structure Ordered where
  term : Term
  descending : Bool
  nullsFirst : Bool

/-- The order of two cells under one term of an ordering. -/
def Ordered.compare (o : Ordered) (a b : Cell) : Ordering :=
  match a.isNull, b.isNull with
  | true, true => .eq
  | true, false => if o.nullsFirst then .lt else .gt
  | false, true => if o.nullsFirst then .gt else .lt
  | false, false =>
    let x := Cell.compare a b
    if o.descending then x.swap else x

/-- A query whose names are looked up. -/
structure Query where
  table : Option Table
  names : List String
  terms : List Term
  condition : Term
  order : List Ordered
  limit : Option Term
  offset : Option Term
  distinct : Bool

namespace Query

/-! ## Preparation -/

/-- White space that does not belong to the text of an expression. -/
def trim (s : List Char) : List Char :=
  let isSpace (c : Char) : Bool := c = ' ' || ('\t' ≤ c && c ≤ '\r')
  ((s.dropWhile isSpace).reverse.dropWhile isSpace).reverse

/-- The name of a result column: its alias, the name of the column that it is, or its text. -/
def nameOf (table : Option Table) (label : Option String) (text : List Char) (term : Term) :
    String :=
  match label, table, term with
  | some label, _, _ => label
  | none, some t, .column i _ => t.columnName i
  | none, _, _ => String.ofList (trim text)

/-- All columns of a table, as results. -/
def allColumns (t : Table) : List (String × Term) :=
  t.columns.mapIdx fun i c => (c.name, .column i c.affinity)

/-- The results that a result column stands for. -/
def expand (scope : Scope) (column : ResultColumn) : Except EngineFailure (List (String × Term)) :=
  match column with
  | .all => match scope.source with
    | none => .error (generalFailure "no tables specified")
    | some (t, _, _) => .ok (allColumns t)
  | .allOf name => match scope.source with
    | some (t, known, _) =>
      if Text.sameLetters name known then .ok (allColumns t)
      else .error (generalFailure ("no such table: " ++ name))
    | none => .error (generalFailure ("no such table: " ++ name))
  | .expr e label text => do
    let term ← scope.resolve e
    return [(nameOf (scope.source.map (·.1)) label text term, term)]

/-- The wildcards among the result columns stand for something. -/
def checkWildcards (scope : Scope) (columns : List ResultColumn) : Except EngineFailure Unit :=
  columns.forM fun column =>
    match column with
    | .expr _ _ _ => .ok ()
    | wildcard => (expand scope wildcard).map fun _ => ()

/-- The aliases among the result columns. -/
def aliasesOf (columns : List ResultColumn) (results : List (List (String × Term))) :
    List (String × Term) :=
  (columns.zip results).filterMap fun
    | (.expr _ (some label) _, [(_, term)]) => some (label, term)
    | _ => none

/-- A number with the ending of its place in a list. -/
def ordinal (n : Nat) : String :=
  let ending :=
    if n / 10 % 10 = 1 then "th"
    else match n % 10 with
      | 1 => "st"
      | 2 => "nd"
      | 3 => "rd"
      | _ => "th"
  Decimal.text n ++ ending

/-- The term that an ordering names: by an alias, by the number of a result, or as an expression. -/
def orderTerm (scope : Scope) (terms : List Term) (place : Nat) (e : Expr) :
    Except EngineFailure Term :=
  let aliased := match e with
    | .name q =>
      if q.table.isSome then none
      else (scope.aliases.find? (Text.sameLetters q.name ·.1)).map (·.2)
    | _ => none
  match aliased, e with
  | some term, _ => .ok term
  | none, .number n =>
    match if n = 0 then none else terms[n - 1]? with
    | some term => .ok term
    | none => .error (generalFailure (ordinal place ++
        " ORDER BY term out of range - should be between 1 and " ++ Decimal.text terms.length))
  | none, e => scope.resolve e

/-- Looks up the names of an ordering. -/
def resolveOrder (scope : Scope) (terms : List Term) (place : Nat) :
    List OrderTerm → Except EngineFailure (List Ordered)
  | [] => .ok []
  | o :: rest => do
    let term ← orderTerm scope terms place o.e
    let ordered := ⟨term, o.descending, o.nullsFirst.getD (!o.descending)⟩
    return ordered :: (← resolveOrder scope terms (place + 1) rest)

/-- Looks up the names of a query. -/
def ofStatement (db : Database) (s : SelectStatement) : Except EngineFailure Query := do
  let source ← s.source.mapM fun source => do return (source, ← db.tableOrFail source.table)
  let scope : Scope := match source with
    | none => {}
    | some (source, t) => .ofSource t source
  checkWildcards scope s.columns
  let limit ← s.limit.mapM (Scope.resolve {})
  let offset ← s.offset.mapM (Scope.resolve {})
  let results ← s.columns.mapM (expand { scope with admitsAggregates := true })
  let terms := results.flatten.map (·.2)
  let isAggregate := Term.anyAggregate terms
  let scope := { scope with aliases := aliasesOf s.columns results }
  let condition ← scope.resolveCondition s.condition
  let order ← resolveOrder { scope with admitsAggregates := isAggregate } terms 1 s.order
  return {
    table := source.map (·.2)
    names := results.flatten.map (·.1)
    terms, condition, order, limit, offset
    distinct := s.distinct }

/-! ## Running -/

/-- A limit as a number. -/
def countOf (a : Term) : Except EngineFailure Int :=
  match Affinity.numeric.apply a.constantValue with
  | .integer n => .ok n.toInt
  | _ => .error (.running .special "datatype mismatch")

/-- The order of the cells of two rows under an ordering. -/
def compareAll : List Ordered → List Cell → List Cell → Ordering
  | o :: os, a :: as, b :: bs => (o.compare a b).then (compareAll os as bs)
  | _, _, _ => .eq

/-- The columns that a query reads. -/
def columns (q : Query) : List Nat :=
  Term.columnsOf q.terms ++ q.condition.columns ++ Term.columnsOf (q.order.map Ordered.term)

/-- The rows that meet the condition, in the order of the visit. -/
def rows (q : Query) : List RowReader :=
  match q.table with
  | none =>
    let none : RowReader := fun _ => .null
    if q.condition.holds none then [none] else []
  | some t =>
    let order := q.order.map fun o => (o.term, o.descending)
    (t.visit q.condition order q.columns).filterMap fun r =>
      if q.condition.holds r.read then some r.read else none

/-- The results with the cells that order them. -/
def results (q : Query) : List (List Cell × List Cell) :=
  let rows := q.rows
  let order := q.order.map Ordered.term
  if Term.anyAggregate q.terms then
    let row := rows.getLast?.getD fun _ => .null
    [(Term.values rows row q.terms, Term.values rows row order)]
  else rows.map fun row => (Term.values [] row q.terms, Term.values [] row order)

/-- The results without repetitions. -/
def withoutRepetitions (results : List (List Cell × List Cell)) : List (List Cell × List Cell) :=
  (results.foldl (fun seen r =>
    if seen.any fun s => compareCells s.1 r.1 == .eq then seen else r :: seen) []).reverse

/-- The cells of the results. -/
def run (q : Query) : Except EngineFailure (List (List Cell)) := do
  let limit ← q.limit.mapM countOf
  let offset ← q.offset.mapM countOf
  let results := if q.distinct then withoutRepetitions q.results else q.results
  let results := results.mergeSort fun a b => compareAll q.order a.2 b.2 != .gt
  let results := results.drop (offset.getD 0).toNat
  let results := match limit with
    | none => results
    | some n => if n < 0 then results else results.take n.toNat
  return results.map (·.1)

end Query

end OpenSql.Engine
