/-
# OpenSql.Engine.Expr — expressions as they are written.

Names are not looked up yet.  A name between double quotes may turn out to be a text, so the quotes
are remembered.
-/
import OpenSql.Engine.Cell

namespace OpenSql.Engine

/-- Operators with two operands whose meaning does not depend on affinities. -/
inductive Operator where
  | and
  | or
  | add
  | subtract
  | multiply
  | divide
  | remainder
  | concat
  | bitAnd
  | bitOr
  | shiftLeft
  | shiftRight
deriving DecidableEq

/-- Comparisons of two operands. -/
inductive Comparison where
  | equal
  | notEqual
  | less
  | lessEqual
  | greater
  | greaterEqual
deriving DecidableEq

/-- Operators with one operand. -/
inductive Prefixed where
  | plus
  | minus
  | not
  | bitNot
deriving DecidableEq

/-- A name with up to two qualifiers before it. -/
structure QualifiedName where
  schema : Option String := none
  table : Option String := none
  name : String
  /-- The name stands alone between double quotes. -/
  isDouble : Bool := false
deriving DecidableEq

/-- The name as messages write it. -/
def QualifiedName.text (q : QualifiedName) : String :=
  let qualifier : Option String → String
    | some s => s ++ "."
    | none => ""
  qualifier q.schema ++ qualifier q.table ++ q.name

/-- An expression. -/
inductive Expr where
  | literal (c : Cell)
  /-- An integer that has no sign yet. -/
  | number (n : Nat)
  | name (q : QualifiedName)
  | prefixed (op : Prefixed) (e : Expr)
  | binary (op : Operator) (a b : Expr)
  | compare (op : Comparison) (a b : Expr)
  /-- Equality that holds between nulls. -/
  | same (negated : Bool) (a b : Expr)
  | inList (negated : Bool) (e : Expr) (items : List Expr)
  | between (negated : Bool) (e low high : Expr)
  | like (negated : Bool) (e pattern : Expr) (escape : Option Expr)
  | cast (e : Expr) (typeName : List Char)
  | case (operand : Option Expr) (branches : List (Expr × Expr)) (otherwise : Option Expr)
  | call (function : String) (distinct : Bool) (arguments : List Expr)
  /-- A function of all rows, such as `COUNT(*)`. -/
  | callStar (function : String)
deriving Inhabited

end OpenSql.Engine
