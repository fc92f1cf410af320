/-
# OpenSql.Engine.ExprReader — expressions from tokens.

Operators bind with the strengths of the following list, the weakest first: `OR`; `AND`; `NOT`;
equality, `IS`, `IN`, `LIKE`, `BETWEEN`; order; bit operators; sums; products; concatenation; signs.

The readers take fuel; every step down consumes a token after a bounded number of steps, so a multiple
of the number of tokens is enough.
-/
import OpenSql.Decimal.Digits
import OpenSql.Engine.Expr
import OpenSql.Engine.Numeral
import OpenSql.Engine.TokenReader

namespace OpenSql.Engine

open Reading

/-! ## Literals -/

/-- The expression of an integer's digits. -/
def integerLiteral (chars : List Char) : Expr :=
  match chars with
  | '0' :: x :: digits =>
    if x = 'x' || x = 'X' then
      .literal (.integer (Int64.ofNat ((Text.numberOfDigits? 16 digits).getD 0)))
    else decimal chars
  | _ => decimal chars
where
  /-- The expression of decimal digits. -/
  decimal (chars : List Char) : Expr :=
    let n := Decimal.ofDigits chars
    if n ≤ 9223372036854775808 then .number n
    else .literal (.real (Numeral.read (Text.encodeUtf8 (String.ofList chars))).toFloat)

/-- The expression of a real's text. -/
def realLiteral (chars : List Char) : Expr :=
  .literal (.ofFloat (Numeral.read (Text.encodeUtf8 (String.ofList chars))).toFloat)

/-! ## Type names -/

/-- Reads a number with a sign, inside the parentheses of a type. -/
def readTypeNumber : Reading Unit := do
  if !(← takeSymbol? "+") then let _ ← takeSymbol? "-"
  match (← peek).kind with
  | .integer => let _ ← take
  | .real => let _ ← take
  | _ => fail

/-- Reads the words of a type. -/
def readTypeWords (fuel : Nat) : Reading Unit :=
  match fuel with
  | 0 => return ()
  | fuel + 1 => do
    match nameOf? false true (← peek) with
    | some _ => let _ ← take; readTypeWords fuel
    | none => return ()

/-- Reads a type with the sizes that may follow it; its text is empty when there is none.  Words that
begin what may follow a type are no part of it. -/
def readTypeName (excluded : List String) : Reading (List Char) := do
  let start ← nextPlace
  let token ← peek
  let isExcluded := match token.kind with
    | .word spelling => excluded.contains spelling
    | _ => false
  if isExcluded || (nameOf? false true token).isNone then return []
  readTypeWords (← remaining)
  if ← takeSymbol? "(" then
    readTypeNumber
    if ← takeSymbol? "," then readTypeNumber
    symbol ")"
  textFrom start

/-! ## Operators -/

/-- A binary operator with its strength. -/
inductive Infixed where
  | operator (op : Operator)
  | comparison (op : Comparison)

/-- The strength of equality. -/
def equalityStrength : Nat := 3

/-- The binary operator that a token is, with its strength. -/
def infixed? : TokenKind → Option (Infixed × Nat)
  | .word "OR" => some (.operator .or, 0)
  | .word "AND" => some (.operator .and, 1)
  | .symbol "=" => some (.comparison .equal, 3)
  | .symbol "==" => some (.comparison .equal, 3)
  | .symbol "!=" => some (.comparison .notEqual, 3)
  | .symbol "<>" => some (.comparison .notEqual, 3)
  | .symbol "<" => some (.comparison .less, 4)
  | .symbol "<=" => some (.comparison .lessEqual, 4)
  | .symbol ">" => some (.comparison .greater, 4)
  | .symbol ">=" => some (.comparison .greaterEqual, 4)
  | .symbol "&" => some (.operator .bitAnd, 5)
  | .symbol "|" => some (.operator .bitOr, 5)
  | .symbol "<<" => some (.operator .shiftLeft, 5)
  | .symbol ">>" => some (.operator .shiftRight, 5)
  | .symbol "+" => some (.operator .add, 6)
  | .symbol "-" => some (.operator .subtract, 6)
  | .symbol "*" => some (.operator .multiply, 7)
  | .symbol "/" => some (.operator .divide, 7)
  | .symbol "%" => some (.operator .remainder, 7)
  | .symbol "||" => some (.operator .concat, 8)
  | _ => none

/-- The expression of a binary operator. -/
def Infixed.apply (a b : Expr) : Infixed → Expr
  | operator op => .binary op a b
  | comparison op => .compare op a b

/-- The prefix operator that a token is, with the strength of its operand. -/
def prefixed? : TokenKind → Option (Prefixed × Nat)
  | .word "NOT" => some (.not, 3)
  | .symbol "-" => some (.minus, 9)
  | .symbol "+" => some (.plus, 9)
  | .symbol "~" => some (.bitNot, 9)
  | _ => none

/-! ## Expressions -/

mutual

/-- Reads an expression whose operators are at least so strong. -/
def readExprAt (fuel strength : Nat) : Reading Expr :=
  match fuel with
  | 0 => fail
  | fuel + 1 => do
    let left ← readOperand fuel
    readOperators fuel strength left

/-- Reads the operators that follow an operand. -/
def readOperators (fuel strength : Nat) (left : Expr) : Reading Expr :=
  match fuel with
  | 0 => return left
  | fuel + 1 => do
    let kind := (← peek).kind
    match infixed? kind with
    | some (op, s) =>
      if s < strength then return left
      let _ ← take
      let right ← readExprAt fuel (s + 1)
      readOperators fuel strength (op.apply left right)
    | none =>
      if equalityStrength < strength then return left
      match kind with
      | .word "ISNULL" =>
        let _ ← take
        readOperators fuel strength (.same false left (.literal .null))
      | .word "NOTNULL" =>
        let _ ← take
        readOperators fuel strength (.same true left (.literal .null))
      | .word "IS" =>
        let _ ← take
        let negated ← takeWord? "NOT"
        let distinct ← takeWord? "DISTINCT"
        if distinct then word "FROM"
        let right ← readExprAt fuel (equalityStrength + 1)
        readOperators fuel strength (.same (negated != distinct) left right)
      | .word "IN" => readTest fuel strength false left
      | .word "LIKE" => readTest fuel strength false left
      | .word "BETWEEN" => readTest fuel strength false left
      | .word "NOT" =>
        match ← peekSecond with
        | .word "NULL" =>
          let _ ← take
          let _ ← take
          readOperators fuel strength (.same true left (.literal .null))
        | _ =>
          let _ ← take
          readTest fuel strength true left
      | _ => return left

/-- Reads `IN`, `LIKE` or `BETWEEN` with what follows it. -/
def readTest (fuel strength : Nat) (negated : Bool) (left : Expr) : Reading Expr :=
  match fuel with
  | 0 => fail
  | fuel + 1 => do
    if ← takeWord? "IN" then
      symbol "("
      let items ← if ← atSymbol ")" then pure [] else readExprs fuel
      symbol ")"
      readOperators fuel strength (.inList negated left items)
    else if ← takeWord? "LIKE" then
      let pattern ← readExprAt fuel (equalityStrength + 1)
      let escape ← if ← takeWord? "ESCAPE" then
          some <$> readExprAt fuel (equalityStrength + 2)
        else pure none
      readOperators fuel strength (.like negated left pattern escape)
    else if ← takeWord? "BETWEEN" then
      let low ← readExprAt fuel (equalityStrength + 1)
      word "AND"
      let high ← readExprAt fuel (equalityStrength + 1)
      readOperators fuel strength (.between negated left low high)
    else fail

/-- Reads an operand: a literal, a name, a call, or an expression that stands for itself. -/
def readOperand (fuel : Nat) : Reading Expr :=
  match fuel with
  | 0 => fail
  | fuel + 1 => do
    let token ← peek
    match prefixed? token.kind with
    | some (op, s) =>
      let _ ← take
      return .prefixed op (← readExprAt fuel s)
    | none =>
      match token.kind with
      | .integer => let _ ← take; return integerLiteral token.chars
      | .real => let _ ← take; return realLiteral token.chars
      | .string content =>
        let _ ← take
        if ← atSymbol "." then readQualified fuel (String.ofList content) false
        else return .literal (.ofString (String.ofList content))
      | .blob bytes => let _ ← take; return .literal (.blob bytes)
      | .symbol "(" =>
        let _ ← take
        let e ← readExprAt fuel 0
        symbol ")"
        return e
      | .word "NULL" => let _ ← take; return .literal .null
      | .word "CASE" => let _ ← take; readCase fuel
      | .word "CAST" =>
        if (← peekSecond) == .symbol "(" then
          let _ ← take
          let _ ← take
          let e ← readExprAt fuel 0
          word "AS"
          let typeName ← readTypeName []
          symbol ")"
          return .cast e typeName
        else readName fuel
      | _ => readName fuel

/-- Reads a name or a call. -/
def readName (fuel : Nat) : Reading Expr :=
  match fuel with
  | 0 => fail
  | fuel + 1 => do
    let token ← peek
    match nameOf? true false token with
    | none => fail
    | some s =>
      let _ ← take
      let isDouble := match token.kind with
        | .quotedName _ d => d
        | _ => false
      if ← takeSymbol? "(" then
        if ← takeSymbol? "*" then
          symbol ")"
          return .callStar s
        if ← takeSymbol? ")" then return .call s false []
        let distinct ← takeWord? "DISTINCT"
        if !distinct then let _ ← takeWord? "ALL"
        let arguments ← readExprs fuel
        symbol ")"
        return .call s distinct arguments
      readQualified fuel s isDouble

/-- Reads the rest of a name that may be a qualifier. -/
def readQualified (fuel : Nat) (first : String) (isDouble : Bool) : Reading Expr :=
  match fuel with
  | 0 => fail
  | _ + 1 => do
    if !(← takeSymbol? ".") then return .name { name := first, isDouble }
    let second ← name
    if !(← takeSymbol? ".") then return .name { table := some first, name := second }
    let third ← name
    return .name { schema := some first, table := some second, name := third }

/-- Reads expressions with commas between them. -/
def readExprs (fuel : Nat) : Reading (List Expr) :=
  match fuel with
  | 0 => fail
  | fuel + 1 => do
    let e ← readExprAt fuel 0
    if ← takeSymbol? "," then return e :: (← readExprs fuel)
    return [e]

/-- Reads a case distinction behind its first word. -/
def readCase (fuel : Nat) : Reading Expr :=
  match fuel with
  | 0 => fail
  | fuel + 1 => do
    let operand ← if ← atWord "WHEN" then pure none else some <$> readExprAt fuel 0
    word "WHEN"
    let branches ← readBranches fuel
    let otherwise ← if ← takeWord? "ELSE" then some <$> readExprAt fuel 0 else pure none
    word "END"
    return .case operand branches otherwise

/-- Reads the branches of a case distinction behind a `WHEN`. -/
def readBranches (fuel : Nat) : Reading (List (Expr × Expr)) :=
  match fuel with
  | 0 => fail
  | fuel + 1 => do
    let condition ← readExprAt fuel 0
    word "THEN"
    let result ← readExprAt fuel 0
    if ← takeWord? "WHEN" then return (condition, result) :: (← readBranches fuel)
    return [(condition, result)]

end

/-- Reads an expression. -/
def readExpr : Reading Expr := do readExprAt (10 * (← remaining) + 10) 0

/-- Reads expressions with commas between them. -/
def readExprList : Reading (List Expr) := do readExprs (10 * (← remaining) + 10)

end OpenSql.Engine
