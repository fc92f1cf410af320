/-
# OpenSql.Engine.TokenReader — reading tokens one after another.

A reader consumes tokens from the front.  It fails at the first token that cannot go on from what was
read before, and the message names that token, or says that the input is incomplete when it ends
there.
-/
import OpenSql.Engine.Token
import OpenSql.Fault

namespace OpenSql.Engine

/-- A token that does not fit. -/
structure Unexpected where
  token : Token

/-- The failure for a token that does not fit. -/
def Unexpected.failure (u : Unexpected) : EngineFailure :=
  let text := String.ofList u.token.chars
  let message := match u.token.kind with
    | .final => "incomplete input"
    | .illegal => "unrecognized token: \"" ++ text ++ "\""
    | _ => "near \"" ++ text ++ "\": syntax error"
  .reading .general message u.token.offset

/-- The tokens of a text that are left. -/
structure Tokens where
  /-- The whole text. -/
  source : List Char
  rest : List Token
  /-- The place behind the last token that was read. -/
  place : Nat := 0

/-- A reader of tokens. -/
abbrev Reading (α : Type) := StateT Tokens (Except Unexpected) α

namespace Reading

/-- The end of a text. -/
def finalToken : Token := ⟨.final, [], 0⟩

/-- The next token, which stays. -/
def peek : Reading Token := do
  return ((← get).rest.head?).getD finalToken

/-- The kind of the token behind the next one. -/
def peekSecond : Reading TokenKind := do
  return (((← get).rest.drop 1).head?.map Token.kind).getD .final

/-- Takes the next token. -/
def take : Reading Token := do
  let token ← peek
  modify fun t => { t with rest := t.rest.drop 1, place := token.stop }
  return token

/-- Fails at the next token. -/
def fail : Reading α := do throw ⟨← peek⟩

/-- The next token is the keyword. -/
def atWord (word : String) : Reading Bool := do
  return (← peek).kind == .word word

/-- The next token is the symbol. -/
def atSymbol (name : String) : Reading Bool := do
  return (← peek).kind == .symbol name

/-- Takes the keyword if it is next. -/
def takeWord? (word : String) : Reading Bool := do
  if ← atWord word then
    let _ ← take
    return true
  return false

/-- Takes the symbol if it is next. -/
def takeSymbol? (name : String) : Reading Bool := do
  if ← atSymbol name then
    let _ ← take
    return true
  return false

/-- Takes the keyword. -/
def word (word : String) : Reading Unit := do
  if !(← takeWord? word) then fail

/-- Takes the symbol. -/
def symbol (name : String) : Reading Unit := do
  if !(← takeSymbol? name) then fail

/-- The token's name, if a name may be written so. -/
def nameOf? (allowJoinWords allowString : Bool) (t : Token) : Option String :=
  match t.kind with
  | .word spelling =>
    if reservedWords.contains spelling || (!allowJoinWords && joinWords.contains spelling) then none
    else some (String.ofList t.chars)
  | .quotedName name _ => some (String.ofList name)
  | .string content => if allowString then some (String.ofList content) else none
  | _ => none

/-- Takes a name. -/
def name : Reading String := do
  match nameOf? true true (← peek) with
  | some s => let _ ← take; return s
  | none => fail

/-- Takes an alias without `AS`, if one is next. -/
def plainAlias? (excluded : List String) : Reading (Option String) := do
  let token ← peek
  match token.kind with
  | .word spelling => if excluded.contains spelling then return none
  | _ => pure ()
  match nameOf? false true token with
  | some s => let _ ← take; return some s
  | none => return none

/-- The text from a place to the last token that was read. -/
def textFrom (start : Nat) : Reading (List Char) := do
  let t ← get
  return (t.source.take t.place).drop start

/-- The place of the next token; without one, the end of the text. -/
def nextPlace : Reading Nat := do
  let t ← get
  match t.rest with
  | [] => return t.source.length
  | token :: _ => return token.offset

/-- Reads items with commas between them. -/
def commaSeparated (fuel : Nat) (item : Reading α) : Reading (List α) :=
  match fuel with
  | 0 => fail
  | fuel + 1 => do
    let x ← item
    if ← takeSymbol? "," then return x :: (← commaSeparated fuel item)
    return [x]

/-- The number of tokens that are left. -/
def remaining : Reading Nat := return (← get).rest.length

end Reading

end OpenSql.Engine
