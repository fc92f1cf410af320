/-
# OpenSql.Engine.Token — the tokens of a statement's text.

A token is the longest stretch of characters that is one.  White space and comments stand between
tokens.  A stretch that is no token is kept as an illegal one, so that reading can go on up to it and
name it.  The text ends at the first NUL character.
-/
import OpenSql.Engine.Keyword
import OpenSql.Text.Hex

namespace OpenSql.Engine

/-- What a token is. -/
inductive TokenKind where
  /-- A keyword or a plain name. -/
  | word (spelling : String)
  /-- A name between quotes; `isDouble` for the quotes that may also stand around a text. -/
  | quotedName (name : List Char) (isDouble : Bool)
  | string (content : List Char)
  | integer
  | real
  | blob (bytes : List UInt8)
  /-- A parameter that a program would fill in. -/
  | parameter
  | symbol (name : String)
  | illegal
  /-- The end of the text. -/
  | final
deriving DecidableEq

/-- A token with its characters and the number of characters before it. -/
structure Token where
  kind : TokenKind
  chars : List Char
  offset : Nat

namespace Token

/-! ## Characters -/

/-- A character of a name. -/
def isNameChar (c : Char) : Bool := c.isAlphanum || c = '_' || c = '$' || 0x80 ≤ c.toNat

/-- A character that a name can start with. -/
def isNameStart (c : Char) : Bool := c.isAlpha || c = '_' || 0x80 ≤ c.toNat

/-- White space between tokens. -/
def isSpace (c : Char) : Bool :=
  c = ' ' || c = '\t' || c = '\n' || c = '\x0c' || c = '\r' || c = '\uFEFF'

/-! ## One token -/

/-- The characters up to the end of a line. -/
def lineComment (s : List Char) : List Char := s.takeWhile (· != '\n')

/-- The number of characters of a comment, counted behind its opening mark. -/
def blockCommentLength : List Char → Nat
  | [] => 0
  | '*' :: '/' :: _ => 2
  | _ :: s => blockCommentLength s + 1

/-- The content of a quoted stretch, behind the opening quote, and the number of characters up to and
with the closing quote.  A doubled quote stands for one. -/
def quotedContent? (quote : Char) : List Char → Option (List Char × Nat)
  | [] => none
  | [c] => if c = quote then some ([], 1) else none
  | c :: d :: s =>
    if c = quote then
      if d = quote then (quotedContent? quote s).map fun (content, n) => (quote :: content, n + 2)
      else some ([], 1)
    else (quotedContent? quote (d :: s)).map fun (content, n) => (c :: content, n + 1)

/-- The number of characters of a number, and whether it is a real; behind it no name may begin. -/
def numberLength (s : List Char) : Nat × TokenKind :=
  match s with
  | '0' :: x :: d :: rest =>
    if (x = 'x' || x = 'X') && (Text.hexValue? d).isSome then
      (3 + (rest.takeWhile fun c => (Text.hexValue? c).isSome).length, .integer)
    else decimalLength s
  | _ => decimalLength s
where
  /-- The number of characters of an exponent. -/
  exponentLength : List Char → Nat
    | e :: d :: rest =>
      if e = 'e' || e = 'E' then
        if d.isDigit then 2 + (rest.takeWhile Char.isDigit).length
        else if d = '+' || d = '-' then
          let n := (rest.takeWhile Char.isDigit).length
          if n = 0 then 0 else 2 + n
        else 0
      else 0
    | _ => 0
  /-- The number of characters of a decimal number. -/
  decimalLength (s : List Char) : Nat × TokenKind :=
    let whole := (s.takeWhile Char.isDigit).length
    let point := match s.drop whole with
      | '.' :: rest => 1 + (rest.takeWhile Char.isDigit).length
      | _ => 0
    let exponent := exponentLength (s.drop (whole + point))
    let n := whole + point + exponent
    let junk := ((s.drop n).takeWhile isNameChar).length
    if junk = 0 then (n, if point + exponent = 0 then .integer else .real)
    else (n + junk, .illegal)

/-- Symbols of two or three characters, the longer ones first. -/
def longSymbols : List (List Char) :=
  [['-', '>', '>'], ['-', '>'], ['=', '='], ['<', '='], ['<', '>'], ['<', '<'], ['>', '='],
   ['>', '>'], ['!', '='], ['|', '|']]

/-- Symbols of one character. -/
def shortSymbols : List Char :=
  ['(', ')', ';', '+', '*', '/', '%', '=', '<', '>', '|', ',', '&', '~', '.', '-']

/-- The kind and the length of the token at the front of a text that does not begin with white space
or a comment. -/
def measure (s : List Char) : TokenKind × Nat :=
  match s with
  | [] => (.final, 0)
  | c :: rest =>
    if c = '\'' then
      match quotedContent? '\'' rest with
      | some (content, n) => (.string content, n + 1)
      | none => (.illegal, s.length)
    else if c = '\"' || c = '\x60' then
      match quotedContent? c rest with
      | some (content, n) => (.quotedName content (c = '\"'), n + 1)
      | none => (.illegal, s.length)
    else if c = '[' then
      let name := rest.takeWhile (· != ']')
      if name.length < rest.length then (.quotedName name false, name.length + 2)
      else (.illegal, s.length)
    else if (c = 'x' || c = 'X') && rest.head? == some '\'' then
      let digits := (rest.drop 1).takeWhile fun c => (Text.hexValue? c).isSome
      let after := rest.drop (1 + digits.length)
      match after.head? == some '\'', Text.bytesOfHex? digits with
      | true, some bytes => (.blob bytes, digits.length + 3)
      | _, _ =>
        let junk := (after.takeWhile (· != '\'')).length
        (.illegal, min s.length (digits.length + junk + 3))
    else if c.isDigit || (c = '.' && (rest.head?.map Char.isDigit).getD false) then
      let (n, kind) := numberLength s
      (kind, n)
    else if isNameStart c then
      let word := s.takeWhile isNameChar
      (.word (keywordSpelling word), word.length)
    else if c = '?' then (.parameter, 1 + (rest.takeWhile Char.isDigit).length)
    else if c = '@' || c = ':' || c = '#' || c = '$' then
      let n := (rest.takeWhile isNameChar).length
      (if n = 0 then .illegal else .parameter, n + 1)
    else match longSymbols.find? (·.isPrefixOf s) with
      | some symbol => (.symbol (String.ofList symbol), symbol.length)
      | none =>
        if shortSymbols.contains c then (.symbol (String.singleton c), 1) else (.illegal, 1)

/-- The number of characters of the white space or the comment at the front of a text. -/
def gapLength : List Char → Nat
  | '-' :: '-' :: rest => 2 + (lineComment rest).length
  | '/' :: '*' :: c :: rest => 2 + blockCommentLength (c :: rest)
  | s => (s.takeWhile isSpace).length

/-! ## All tokens -/

/-- The tokens of a text whose first character has the given offset. -/
def scan (fuel offset : Nat) (s : List Char) : List Token :=
  match fuel with
  | 0 => []
  | fuel + 1 =>
    match gapLength s with
    | n + 1 => scan fuel (offset + n + 1) (s.drop (n + 1))
    | 0 =>
      match s with
      | [] => []
      | _ =>
        let (kind, n) := measure s
        let n := max n 1
        ⟨kind, s.take n, offset⟩ :: scan fuel (offset + n) (s.drop n)

/-- The tokens of a text. -/
def ofText (s : List Char) : List Token :=
  let s := s.takeWhile (· != '\x00')
  scan (s.length + 1) 0 s

/-- The place behind the token. -/
def stop (t : Token) : Nat := t.offset + t.chars.length

end Token

end OpenSql.Engine
