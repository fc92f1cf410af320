/-
# OpenSql.Engine.StatementReader — statements from tokens.

A text holds statements with semicolons between them; empty ones are passed over.  Each statement is
read only when its turn comes, so that what stands before a malformed one can be run.
-/
import OpenSql.Engine.ExprReader
import OpenSql.Engine.Statement

namespace OpenSql.Engine

open Reading

/-! ## Names -/

/-- Reads the name of a table. -/
def readTableName : Reading TableName := do
  let first ← name
  if ← takeSymbol? "." then return { schema := some first, name := ← name }
  return { name := first }

/-- Reads an alias, with or without `AS`. -/
def readAlias (excluded : List String) : Reading (Option String) := do
  if ← takeWord? "AS" then return some (← name)
  plainAlias? excluded

/-- Reads the target of a change; an alias needs `AS`. -/
def readTarget : Reading Source := do
  let table ← readTableName
  let label ← if ← takeWord? "AS" then some <$> name else pure none
  return ⟨table, label⟩

/-- Reads names with commas between them, between parentheses. -/
def readNameList : Reading (List String) := do
  symbol "("
  let names ← commaSeparated (← remaining) name
  symbol ")"
  return names

/-! ## Queries -/

/-- Reads one column of a result. -/
def readResultColumn : Reading ResultColumn := do
  if ← takeSymbol? "*" then return .all
  let following := ((← get).rest.drop 1).take 2
  if following.map Token.kind == [.symbol ".", .symbol "*"] then
    let table ← name
    symbol "."
    symbol "*"
    return .allOf table
  let start ← nextPlace
  let e ← readExpr
  let text := ((← get).source.take (← nextPlace)).drop start
  return .expr e (← readAlias ["LIKE", "GLOB", "MATCH", "REGEXP"]) text

/-- Reads one term of an ordering. -/
def readOrderTerm : Reading OrderTerm := do
  let e ← readExpr
  let descending ← if ← takeWord? "ASC" then pure false else takeWord? "DESC"
  if ← takeWord? "NULLS" then
    if ← takeWord? "FIRST" then return ⟨e, descending, some true⟩
    word "LAST"
    return ⟨e, descending, some false⟩
  return { e, descending }

/-- Reads a query behind its first word. -/
def readSelect : Reading SelectStatement := do
  let distinct ← takeWord? "DISTINCT"
  if !distinct then let _ ← takeWord? "ALL"
  let columns ← commaSeparated (← remaining) readResultColumn
  let source ← if ← takeWord? "FROM" then do
      let table ← readTableName
      pure (some ⟨table, ← readAlias []⟩)
    else pure none
  let condition ← if ← takeWord? "WHERE" then some <$> readExpr else pure none
  let order ← if ← takeWord? "ORDER" then do
      word "BY"
      commaSeparated (← remaining) readOrderTerm
    else pure []
  let (limit, offset) ← if ← takeWord? "LIMIT" then do
      let first ← readExpr
      if ← takeWord? "OFFSET" then pure (some first, some (← readExpr))
      else if ← takeSymbol? "," then pure (some (← readExpr), some first)
      else pure (some first, none)
    else pure (none, none)
  return { distinct, columns, source, condition, order, limit, offset }

/-! ## Changes -/

/-- Reads the word of a resolution. -/
def readResolutionWord : Reading Resolution := do
  if ← takeWord? "ROLLBACK" then return .rollback
  if ← takeWord? "ABORT" then return .abort
  if ← takeWord? "FAIL" then return .fail
  if ← takeWord? "IGNORE" then return .ignore
  if ← takeWord? "REPLACE" then return .replace
  fail

/-- Reads the resolution of a statement, if it has one. -/
def readStatementResolution : Reading (Option Resolution) := do
  if ← takeWord? "OR" then some <$> readResolutionWord else return none

/-- Reads the resolution of a constraint, if it has one. -/
def readConflictClause : Reading (Option Resolution) := do
  if (← atWord "ON") && (← peekSecond) == .word "CONFLICT" then
    let _ ← take
    let _ ← take
    some <$> readResolutionWord
  else return none

/-- Reads one row of values. -/
def readRow : Reading (List Expr) := do
  symbol "("
  let row ← readExprList
  symbol ")"
  return row

/-- Reads an insertion behind the words that say that it is one. -/
def readInsert (resolution : Option Resolution) : Reading Statement := do
  word "INTO"
  let target ← readTarget
  let columns ← if ← atSymbol "(" then some <$> readNameList else pure none
  if columns.isNone then
    if ← takeWord? "DEFAULT" then
      word "VALUES"
      return .insert resolution target none .defaults
  if ← takeWord? "SELECT" then
    return .insert resolution target columns (.query (← readSelect))
  if columns.isSome then
    if ← takeWord? "DEFAULT" then
      word "VALUES"
      return .insert resolution target columns .defaults
  word "VALUES"
  return .insert resolution target columns (.values (← commaSeparated (← remaining) readRow))

/-- Reads one assignment. -/
def readAssignment : Reading (String × Expr) := do
  let column ← name
  symbol "="
  return (column, ← readExpr)

/-- Reads a condition, if there is one. -/
def readCondition : Reading (Option Expr) := do
  if ← takeWord? "WHERE" then some <$> readExpr else return none

/-- Reads an update behind its first word. -/
def readUpdate : Reading Statement := do
  let resolution ← readStatementResolution
  let target ← readTarget
  word "SET"
  let assignments ← commaSeparated (← remaining) readAssignment
  return .update resolution target assignments (← readCondition)

/-! ## Definitions -/

/-- Reads what a reference does when the parent row goes or changes. -/
def readAction : Reading ReferenceAction := do
  if ← takeWord? "CASCADE" then return .cascade
  if ← takeWord? "RESTRICT" then return .noAction
  if ← takeWord? "NO" then
    word "ACTION"
    return .noAction
  word "SET"
  if ← takeWord? "NULL" then return .setNull
  word "DEFAULT"
  return .setDefault

/-- Reads the clauses of a reference. -/
def readReferenceClauses (fuel : Nat) (r : Reference) : Reading Reference :=
  match fuel with
  | 0 => return r
  | fuel + 1 => do
    if ← takeWord? "ON" then
      if ← takeWord? "DELETE" then
        readReferenceClauses fuel { r with onDelete := ← readAction }
      else
        word "UPDATE"
        readReferenceClauses fuel { r with onUpdate := ← readAction }
    else if ← takeWord? "MATCH" then
      let _ ← name
      readReferenceClauses fuel r
    else
      let negated := (← atWord "NOT") && (← peekSecond) == .word "DEFERRABLE"
      if negated then let _ ← take
      if ← takeWord? "DEFERRABLE" then
        let deferred ← if ← takeWord? "INITIALLY" then
            if ← takeWord? "DEFERRED" then pure true
            else do word "IMMEDIATE"; pure false
          else pure false
        return { r with isDeferred := deferred && !negated }
      return r

/-- Reads a reference behind its first word. -/
def readReference : Reading Reference := do
  let parent ← name
  let parentColumns ← if ← atSymbol "(" then readNameList else pure []
  readReferenceClauses (← remaining) { parent, parentColumns }

/-- A text without the quotes around it, if it starts with some. -/
def withoutQuotes (s : List Char) : List Char :=
  match (Token.measure s).1 with
  | .string content => content
  | .quotedName content _ => content
  | _ => s

/-- Reads a condition between parentheses; without a name of its own its text is its name. -/
def readCheck (constraintName : Option String) : Reading Check := do
  symbol "("
  let start := (← get).place
  let condition ← readExpr
  let stop ← nextPlace
  let text := ((← get).source.take stop).drop start
  symbol ")"
  let trimmed := ((text.dropWhile Token.isSpace).reverse.dropWhile Token.isSpace).reverse
  return ⟨constraintName.getD (String.ofList (withoutQuotes trimmed)), condition⟩

/-- Reads a name behind `CONSTRAINT`, if that is next. -/
def readConstraintName : Reading (Option String) := do
  if ← takeWord? "CONSTRAINT" then some <$> name else return none

/-- Reads the value of a column that is not given. -/
def readDefault : Reading Expr := do
  if ← takeSymbol? "(" then
    let e ← readExpr
    symbol ")"
    return e
  let negative ← takeSymbol? "-"
  if !negative then let _ ← takeSymbol? "+"
  let token ← peek
  match token.kind with
  | .integer =>
    let _ ← take
    let e := integerLiteral token.chars
    return if negative then .prefixed .minus e else e
  | .real =>
    let _ ← take
    let e := realLiteral token.chars
    return if negative then .prefixed .minus e else e
  | .string content => let _ ← take; return .literal (.ofString (String.ofList content))
  | .blob bytes => let _ ← take; return .literal (.blob bytes)
  | .word "NULL" => let _ ← take; return .literal .null
  | _ => return .literal (.ofString (← name))

/-- Reads the clauses of a column; the name of a constraint stays until there is another one. -/
def readColumnClauses (fuel : Nat) (known : Option String) : Reading (List ColumnClause) :=
  match fuel with
  | 0 => return []
  | fuel + 1 => do
    let own ← readConstraintName
    let constraintName := own <|> known
    if ← takeWord? "PRIMARY" then
      word "KEY"
      let descending ← if ← takeWord? "ASC" then pure false else takeWord? "DESC"
      let resolution ← readConflictClause
      let autoincrement ← takeWord? "AUTOINCREMENT"
      let rest ← readColumnClauses fuel constraintName
      return .primaryKey descending autoincrement resolution :: rest
    if (← atWord "NOT") && (← peekSecond) == .word "NULL" then
      let _ ← take
      let _ ← take
      return .notNull (← readConflictClause) :: (← readColumnClauses fuel constraintName)
    if ← takeWord? "NULL" then
      let _ ← readConflictClause
      return .other :: (← readColumnClauses fuel constraintName)
    if ← takeWord? "UNIQUE" then
      return .unique (← readConflictClause) :: (← readColumnClauses fuel constraintName)
    if ← takeWord? "CHECK" then
      return .check (← readCheck constraintName) :: (← readColumnClauses fuel constraintName)
    if ← takeWord? "DEFAULT" then
      return .default (← readDefault) :: (← readColumnClauses fuel constraintName)
    if ← takeWord? "COLLATE" then
      let _ ← name
      return .other :: (← readColumnClauses fuel constraintName)
    if ← takeWord? "REFERENCES" then
      return .references (← readReference) :: (← readColumnClauses fuel constraintName)
    if own.isSome then return .other :: (← readColumnClauses fuel constraintName)
    return []

/-- Reads the definition of a column. -/
def readColumn : Reading ColumnSpec := do
  let columnName ← name
  let typeName ← readTypeName []
  return ⟨columnName, typeName, ← readColumnClauses (← remaining) none⟩

/-- Reads the columns of a key between parentheses. -/
def readKeyColumns : Reading (List String) := do
  symbol "("
  let columns ← commaSeparated (← remaining) do
    let column ← name
    if !(← takeWord? "ASC") then let _ ← takeWord? "DESC"
    pure column
  let _ ← takeWord? "AUTOINCREMENT"
  symbol ")"
  return columns

/-- Reads a clause of a table, with the name of the constraint. -/
def readTableClause (known : Option String) : Reading (Option String × TableClause) := do
  let own ← readConstraintName
  let constraintName := own <|> known
  return (constraintName, ← readUnnamed constraintName)
where
  /-- Reads what follows the name of the constraint. -/
  readUnnamed (constraintName : Option String) : Reading TableClause := do
    if ← takeWord? "PRIMARY" then
      word "KEY"
      let columns ← readKeyColumns
      return .primaryKey columns (← readConflictClause)
    if ← takeWord? "UNIQUE" then
      let columns ← readKeyColumns
      return .unique columns (← readConflictClause)
    if ← takeWord? "CHECK" then
      let check ← readCheck constraintName
      let _ ← readConflictClause
      return .check check
    word "FOREIGN"
    word "KEY"
    let columns ← readNameList
    word "REFERENCES"
    return .foreignKey columns (← readReference)

/-- The next token begins a clause of a table. -/
def atTableClause : Reading Bool := do
  match (← peek).kind with
  | .word w => return ["CONSTRAINT", "PRIMARY", "UNIQUE", "CHECK", "FOREIGN"].contains w
  | _ => return false

/-- Reads the clauses of a table; commas between them may be left out. -/
def readTableClauses (fuel : Nat) (known : Option String) : Reading (List TableClause) :=
  match fuel with
  | 0 => return []
  | fuel + 1 => do
    let (constraintName, clause) ← readTableClause known
    if ← takeSymbol? "," then return clause :: (← readTableClauses fuel none)
    if ← atTableClause then return clause :: (← readTableClauses fuel constraintName)
    return [clause]

/-- Reads the columns and the clauses of a table. -/
def readTableBody (fuel : Nat) : Reading (List ColumnSpec × List TableClause) :=
  match fuel with
  | 0 => fail
  | fuel + 1 => do
    let column ← readColumn
    if ← takeSymbol? "," then
      if ← atTableClause then return ([column], ← readTableClauses fuel none)
      let (columns, clauses) ← readTableBody fuel
      return (column :: columns, clauses)
    return ([column], [])

/-- Reads `IF NOT EXISTS` or `IF EXISTS`. -/
def readIf (negated : Bool) : Reading Bool := do
  if !(← atWord "IF") then return false
  let second ← peekSecond
  if second != .word (if negated then "NOT" else "EXISTS") then return false
  let _ ← take
  if negated then word "NOT"
  word "EXISTS"
  return true

/-- Reads the name of a new table, with the place where the name without its schema begins. -/
def readNewTableName : Reading (TableName × Nat) := do
  let start ← nextPlace
  let first ← name
  if ← takeSymbol? "." then
    let start ← nextPlace
    return ({ schema := some first, name := ← name }, start)
  return ({ name := first }, start)

/-- Reads the definition of a table behind `CREATE TABLE`. -/
def readCreateTable : Reading Statement := do
  let onlyIfNew ← readIf true
  let (table, start) ← readNewTableName
  symbol "("
  let (columns, clauses) ← readTableBody (← remaining)
  symbol ")"
  return .createTable ⟨table, onlyIfNew, columns, clauses, ← textFrom start⟩

/-! ## Statements -/

/-- Reads what may follow the word of a transaction. -/
def readTransactionName : Reading Unit := do
  if ← takeWord? "TRANSACTION" then
    match nameOf? true true (← peek) with
    | some _ => let _ ← take
    | none => pure ()

/-- Reads the mode of a transaction. -/
def readMode : Reading TransactionMode := do
  if ← takeWord? "DEFERRED" then return .deferred
  if ← takeWord? "IMMEDIATE" then return .immediate
  if ← takeWord? "EXCLUSIVE" then return .exclusive
  return .deferred

/-- Reads a statement up to its semicolon. -/
def readStatement : Reading Statement := do
  if ← takeWord? "SELECT" then return .select (← readSelect)
  if ← takeWord? "INSERT" then return ← readInsert (← readStatementResolution)
  if ← takeWord? "REPLACE" then return ← readInsert (some .replace)
  if ← takeWord? "UPDATE" then return ← readUpdate
  if ← takeWord? "DELETE" then
    word "FROM"
    let target ← readTarget
    return .delete target (← readCondition)
  if ← takeWord? "BEGIN" then
    let mode ← readMode
    readTransactionName
    return .begin mode
  if (← takeWord? "COMMIT") || (← takeWord? "END") then
    readTransactionName
    return .commit
  if ← takeWord? "ROLLBACK" then
    readTransactionName
    return .rollback
  if ← takeWord? "CREATE" then
    word "TABLE"
    return ← readCreateTable
  if ← takeWord? "DROP" then
    if ← takeWord? "VIEW" then
      let onlyIfThere ← readIf false
      return .dropView (← readTableName) onlyIfThere
    word "TABLE"
    let onlyIfThere ← readIf false
    return .dropTable (← readTableName) onlyIfThere
  fail

/-- Ends a statement, with a semicolon or with the text. -/
def endStatement : Reading Unit := do
  if (← peek).kind != .final then symbol ";"

/-- The tokens behind the semicolons at the front. -/
def skipEmpty (t : Tokens) : Tokens :=
  { t with rest := t.rest.dropWhile (·.kind == .symbol ";") }

/-- Reads the next statement of a text, if one is left. -/
def nextStatement? (t : Tokens) : Except Unexpected (Option (Statement × Tokens)) := do
  let t := skipEmpty t
  if t.rest.isEmpty then return none
  let (statement, t) ← StateT.run (do let s ← readStatement; endStatement; return s) t
  return some (statement, t)

/-- The tokens of a text, ready to be read. -/
def Tokens.ofText (s : String) : Tokens :=
  ⟨s.toList.takeWhile (· != '\x00'), Token.ofText s.toList, 0⟩

end OpenSql.Engine
