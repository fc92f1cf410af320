/-
# OpenSql.Engine.Statement — statements as they are written.
-/
import OpenSql.Engine.Expr

namespace OpenSql.Engine

/-- The name of a table with an optional schema. -/
structure TableName where
  schema : Option String := none
  name : String
deriving DecidableEq

/-- The name as messages write it. -/
def TableName.text (t : TableName) : String :=
  match t.schema with
  | some schema => schema ++ "." ++ t.name
  | none => t.name

/-- What to do with a row that breaks a constraint. -/
inductive Resolution where
  /-- Undo the statement. -/
  | abort
  /-- Undo the transaction. -/
  | rollback
  /-- Stop, and keep what the statement has done. -/
  | fail
  /-- Pass over the row. -/
  | ignore
  /-- Remove the rows that stand in the way. -/
  | replace
deriving DecidableEq

/-! ## Definitions -/

/-- What becomes of rows whose parent row goes. -/
inductive ReferenceAction where
  | noAction
  | cascade
  | setNull
  | setDefault
deriving DecidableEq

/-- A reference to the rows of a parent table. -/
structure Reference where
  parent : String
  /-- The parent's columns; its primary key when there are none. -/
  parentColumns : List String
  onDelete : ReferenceAction := .noAction
  onUpdate : ReferenceAction := .noAction
  /-- The reference is checked when the transaction ends. -/
  isDeferred : Bool := false
deriving DecidableEq

/-- A condition that every row must meet; its name stands in messages. -/
structure Check where
  name : String
  condition : Expr

/-- What the definition of a column may hold. -/
inductive ColumnClause where
  | primaryKey (descending autoincrement : Bool) (resolution : Option Resolution)
  | notNull (resolution : Option Resolution)
  | unique (resolution : Option Resolution)
  | check (check : Check)
  | default (e : Expr)
  | references (reference : Reference)
  /-- A clause without effect here. -/
  | other

/-- The definition of a column. -/
structure ColumnSpec where
  name : String
  typeName : List Char
  clauses : List ColumnClause

/-- What may follow the columns of a table. -/
inductive TableClause where
  | primaryKey (columns : List String) (resolution : Option Resolution)
  | unique (columns : List String) (resolution : Option Resolution)
  | check (check : Check)
  | foreignKey (columns : List String) (reference : Reference)

/-- The definition of a table. -/
structure TableSpec where
  table : TableName
  onlyIfNew : Bool
  columns : List ColumnSpec
  clauses : List TableClause
  /-- The text of the definition, from the name on. -/
  text : List Char

/-! ## Queries and changes -/

/-- One column of a result. -/
inductive ResultColumn where
  | all
  | allOf (table : String)
  /-- An expression with its alias and its text. -/
  | expr (e : Expr) (label : Option String) (text : List Char)

/-- A term of an ordering. -/
structure OrderTerm where
  e : Expr
  descending : Bool
  /-- Nulls first or last, if that is said. -/
  nullsFirst : Option Bool := none

/-- A table with the name it goes by. -/
structure Source where
  table : TableName
  label : Option String

/-- A query. -/
structure SelectStatement where
  distinct : Bool
  columns : List ResultColumn
  source : Option Source
  condition : Option Expr
  order : List OrderTerm
  limit : Option Expr
  offset : Option Expr

/-- Where the rows of an insertion come from. -/
inductive InsertSource where
  | values (rows : List (List Expr))
  | defaults
  | query (select : SelectStatement)

/-- The mode of a transaction. -/
inductive TransactionMode where
  | deferred
  | immediate
  | exclusive
deriving DecidableEq

/-- A statement. -/
inductive Statement where
  | begin (mode : TransactionMode)
  | commit
  | rollback
  | createTable (spec : TableSpec)
  | dropTable (table : TableName) (onlyIfThere : Bool)
  | dropView (view : TableName) (onlyIfThere : Bool)
  | select (select : SelectStatement)
  | insert (resolution : Option Resolution) (target : Source) (columns : Option (List String))
      (source : InsertSource)
  | update (resolution : Option Resolution) (target : Source)
      (assignments : List (String × Expr)) (condition : Option Expr)
  | delete (target : Source) (condition : Option Expr)

end OpenSql.Engine
