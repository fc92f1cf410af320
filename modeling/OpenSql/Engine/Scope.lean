/-
# OpenSql.Engine.Scope — what the names in an expression stand for.

A name is a column of the table at hand, or else the alias of a result column, or else one of the
words for truth values; a name between double quotes that is none of these is a text.  What an operator
compares by follows from the affinities of its operands.
-/
import OpenSql.Engine.Table

namespace OpenSql.Engine

/-- The names that an expression may use. -/
structure Scope where
  /-- The table at hand, with the name it goes by and whether that is an alias. -/
  source : Option (Table × String × Bool) := none
  /-- The aliases of result columns. -/
  aliases : List (String × Term) := []
  /-- Aggregates may stand here. -/
  admitsAggregates : Bool := false

namespace Scope

/-- The scope of the rows of a table. -/
def ofTable (t : Table) : Scope := { source := some (t, t.name, false) }

/-- The scope of a table under the name that a statement gives it. -/
def ofSource (t : Table) (source : Source) : Scope :=
  match source.label with
  | some label => { source := some (t, label, true) }
  | none => { source := some (t, t.name, false) }

/-- Whether the qualifiers of a name stand for the table at hand. -/
def admits (name : String) (isAlias : Bool) (q : QualifiedName) : Bool :=
  let table := match q.table with
    | none => true
    | some table => Text.sameLetters table name
  let schema := match q.schema with
    | none => true
    | some schema => !isAlias && Text.sameLetters schema Database.mainSchema
  table && schema

/-- The column of a name. -/
def column? (s : Scope) (q : QualifiedName) : Option Term :=
  match s.source with
  | none => none
  | some (t, name, isAlias) =>
    if admits name isAlias q then
      (t.columnIndex? q.name).map fun i => .column i (t.affinity i)
    else none

/-- What a name stands for. -/
def name (s : Scope) (q : QualifiedName) : Except EngineFailure Term :=
  match s.column? q with
  | some term => .ok term
  | none =>
    let unknown := .error (generalFailure ("no such column: " ++ q.text))
    if q.table.isSome then unknown
    else match s.aliases.find? (Text.sameLetters q.name ·.1) with
      | some (_, term) =>
        if term.isAggregate && !s.admitsAggregates then
          .error (generalFailure ("misuse of aliased aggregate " ++ q.name))
        else .ok term
      | none =>
        if q.isDouble then .ok (.literal (.ofString q.name))
        else if Text.sameLetters q.name "true" then .ok (.literal (.ofBool true))
        else if Text.sameLetters q.name "false" then .ok (.literal (.ofBool false))
        else unknown

/-! ## Functions -/

/-- The functions with their names, and whether they take a number of arguments. -/
def functions : List (String × Function × (Nat → Bool)) :=
  [("coalesce", .coalesce, (2 ≤ ·)), ("ifnull", .coalesce, (· == 2)),
   ("nullif", .nullif, (· == 2)), ("length", .length, (· == 1)), ("lower", .lower, (· == 1)),
   ("upper", .upper, (· == 1)), ("typeof", .typeName, (· == 1)), ("min", .least, (2 ≤ ·)),
   ("max", .greatest, (2 ≤ ·))]

/-- The aggregates with their names, and whether they take a number of arguments. -/
def aggregates : List (String × Aggregate × (Nat → Bool)) :=
  [("count", .count, (· ≤ 1)), ("sum", .sum, (· == 1)), ("total", .total, (· == 1)),
   ("avg", .average, (· == 1)), ("min", .least, (· == 1)), ("max", .greatest, (· == 1))]

/-- The term of a call. -/
def call (s : Scope) (name : String) (distinct : Bool) (arguments : List Term) :
    Except EngineFailure Term :=
  let fits {α : Type} (entry : String × α × (Nat → Bool)) : Bool :=
    Text.sameLetters name entry.1 && entry.2.2 arguments.length
  match aggregates.find? fits, functions.find? fits with
  | some (_, f, _), _ =>
    if !s.admitsAggregates || Term.anyAggregate arguments then
      .error (generalFailure ("misuse of aggregate function " ++ name ++ "()"))
    else .ok (.aggregate f distinct arguments.head?)
  | none, some (_, f, _) => .ok (.call f arguments)
  | none, none =>
    let isKnown := aggregates.any (Text.sameLetters name ·.1) ||
      functions.any (Text.sameLetters name ·.1)
    .error (generalFailure (if isKnown then
        "wrong number of arguments to function " ++ name ++ "()"
      else "no such function: " ++ name))

/-! ## Expressions -/

/-- A term with a sign in front; the sign of a number is part of it. -/
def withPrefix (op : Prefixed) (e : Expr) (term : Term) : Term :=
  match op, e with
  | .minus, .number n => .literal (.integer (Int64.ofInt (-n)))
  | .minus, .literal (.real x) => .literal (.real (-x))
  | _, _ => .prefixed op term

/-- The term of a number without a sign; one beyond the integers is a real. -/
def numberTerm (n : Nat) : Term :=
  .literal (if n < 9223372036854775808 then .integer (Int64.ofNat n) else .real (Float.ofNat n))

/-- A comparison of two terms. -/
def comparison (op : Comparison) (a b : Term) : Term :=
  .compare op (.forComparison a.affinity? b.affinity?) a b

/-- The branches of a case distinction. -/
def caseTerm (operand : Option Term) (branches : List (Term × Term)) (otherwise : Term) : Term :=
  branches.foldr (fun (condition, result) rest =>
    let condition := match operand with
      | none => condition
      | some x => comparison .equal x condition
    .choose condition result rest) otherwise

mutual

/-- Looks up the names of an expression. -/
def resolve (s : Scope) : Expr → Except EngineFailure Term
  | .literal c => .ok (.literal c)
  | .number n => .ok (numberTerm n)
  | .name q => s.name q
  | .prefixed op e => do return withPrefix op e (← s.resolve e)
  | .binary op a b => do return .binary op (← s.resolve a) (← s.resolve b)
  | .compare op a b => do return comparison op (← s.resolve a) (← s.resolve b)
  | .same negated a b => do
    let a ← s.resolve a
    let b ← s.resolve b
    return .same negated (.forComparison a.affinity? b.affinity?) a b
  | .inList negated e items =>
    match items with
    | [] => .ok (.literal (.ofBool negated))
    | item :: rest => do
      let a ← s.resolve e
      let item ← s.resolve item
      return .inList negated (a.affinity?.getD .blob) a (item :: (← s.resolveAll rest))
  | .between negated e low high => do
    let a ← s.resolve e
    let low ← s.resolve low
    let high ← s.resolve high
    let inside := Term.binary .and (comparison .greaterEqual a low) (comparison .lessEqual a high)
    return if negated then .prefixed .not inside else inside
  | .like negated e pattern escape => do
    let pattern ← s.resolve pattern
    let a ← s.resolve e
    match escape with
    | none => return .like negated a pattern
    | some escape =>
      let _ ← s.resolve escape
      return .like negated a pattern
  | .cast e typeName => do return .cast (.ofTypeName typeName) (← s.resolve e)
  | .case operand branches otherwise => do
    let operand ← match operand with
      | none => pure none
      | some e => some <$> s.resolve e
    let branches ← s.resolveBranches branches
    let otherwise ← match otherwise with
      | none => pure (.literal .null)
      | some e => s.resolve e
    return caseTerm operand branches otherwise
  | .call function distinct arguments => do
    s.call function distinct (← s.resolveAll arguments)
  | .callStar function => s.call function false []

/-- Looks up the names of some expressions. -/
def resolveAll (s : Scope) : List Expr → Except EngineFailure (List Term)
  | [] => .ok []
  | e :: rest => do
    let a ← s.resolve e
    return a :: (← s.resolveAll rest)

/-- Looks up the names of the branches of a case distinction. -/
def resolveBranches (s : Scope) : List (Expr × Expr) → Except EngineFailure (List (Term × Term))
  | [] => .ok []
  | (condition, result) :: rest => do
    let condition ← s.resolve condition
    let result ← s.resolve result
    return (condition, result) :: (← s.resolveBranches rest)

end

/-- Looks up the names of a condition; without one, every row meets it. -/
def resolveCondition (s : Scope) : Option Expr → Except EngineFailure Term
  | none => .ok (.literal (.ofBool true))
  | some e => s.resolve e

end Scope

/-- The value of an expression without names. -/
def Expr.constant? (e : Expr) : Option Cell :=
  match Scope.resolve {} e with
  | .ok term => some term.constantValue
  | .error _ => none

end OpenSql.Engine
