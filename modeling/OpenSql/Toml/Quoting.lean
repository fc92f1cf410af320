/-
# OpenSql.Toml.Quoting — strings of the TOML format, written and read.

The format has four kinds of quotes.  Between double quotes backslashes escape; between single quotes
everything stands for itself.  Either kind may be tripled, and then line breaks and up to two quotes
in a row may stand inside; a line break directly behind the opening quotes is not part of the string.

A text is written in the first form of this list that can hold it: plain double quotes, single
quotes, tripled double quotes without need of escapes, tripled single quotes; and if none can, between
double quotes with escapes, tripled when the text has a line break.
-/
import OpenSql.Text.Ascii
import OpenSql.Text.Hex

namespace OpenSql.Toml

/-! ## Characters -/

/-- A control character that no string holds as it is.  The tab is none of them. -/
def isControl (c : Char) : Bool := (c.toNat < 0x20 && c != '\t') || c.toNat == 0x7F

/-- The length of the longest stretch of one character. -/
def longestRun (x : Char) (s : List Char) : Nat :=
  (s.foldl (fun (best, current) c =>
    let current := if c = x then current + 1 else 0
    (max best current, current)) (0, 0)).1

/-! ## Writing -/

/-- The escape of a character that needs one in any double-quoted string. -/
def escape? (c : Char) : Option (List Char) :=
  if c = '\x08' then some ['\\', 'b']
  else if c = '\t' then some ['\\', 't']
  else if c = '\x0c' then some ['\\', 'f']
  else if c = '\r' then some ['\\', 'r']
  else if c = '\\' then some ['\\', '\\']
  else if isControl c && c != '\n' then
    some ['\\', 'u', '0', '0', Text.hexDigitUpper (c.toNat / 16), Text.hexDigitUpper (c.toNat % 16)]
  else none

/-- The inside of a string between single double quotes. -/
def escapeLine : List Char → List Char
  | [] => []
  | c :: s =>
    if c = '\"' then '\\' :: '\"' :: escapeLine s
    else if c = '\n' then '\\' :: 'n' :: escapeLine s
    else (escape? c).getD [c] ++ escapeLine s

/-- The inside of a string between tripled double quotes; `quotes` of them stand directly before.
Of three in a row the third is escaped. -/
def escapeLines (quotes : Nat) : List Char → List Char
  | [] => []
  | c :: s =>
    if c = '\"' then
      if quotes < 2 then '\"' :: escapeLines (quotes + 1) s
      else '\\' :: '\"' :: escapeLines 0 s
    else (escape? c).getD [c] ++ escapeLines 0 s

/-- A text between quotes. -/
def between (quote : List Char) (inside : List Char) : List Char := quote ++ inside ++ quote

/-- A text between tripled quotes; if it has a line break, one more stands before it. -/
def betweenTripled (quote : Char) (hasBreak : Bool) (inside : List Char) : List Char :=
  between [quote, quote, quote] (if hasBreak then '\n' :: inside else inside)

/-- The written form of a string. -/
def writeString (s : List Char) : List Char :=
  let hasBreak := s.contains '\n'
  let hasBackslash := s.contains '\\'
  let hasControl := s.any fun c => isControl c && c != '\n'
  let doubles := longestRun '\"' s
  let singles := longestRun '\'' s
  if !hasControl && !hasBackslash && doubles = 0 && !hasBreak then between ['\"'] (escapeLine s)
  else if !hasControl && singles = 0 && !hasBreak then between ['\''] s
  else if !hasControl && !hasBackslash && doubles ≤ 2 then
    betweenTripled '\"' hasBreak (escapeLines 0 s)
  else if !hasControl && singles ≤ 2 then betweenTripled '\'' hasBreak s
  else if hasBreak then betweenTripled '\"' hasBreak (escapeLines 0 s)
  else between ['\"'] (escapeLine s)

/-! ## Reading -/

/-- The character of a letter behind a backslash. -/
def unescape? (c : Char) : Option Char :=
  if c = 'b' then some '\x08'
  else if c = 't' then some '\t'
  else if c = 'n' then some '\n'
  else if c = 'f' then some '\x0c'
  else if c = 'r' then some '\r'
  else if c = '\"' then some '\"'
  else if c = '\\' then some '\\'
  else none

/-- The character of a number in hexadecimal digits; surrogates are none. -/
def numbered? (digits : List Char) : Option Char := do
  let n ← Text.numberOfDigits? 16 digits
  if n < 0xD800 ∨ (0xDFFF < n ∧ n < 0x110000) then some (Char.ofNat n) else none

/-- A read string and the text behind it. -/
abbrev Read := Option (List Char × List Char)

/-- Puts a character in front of what was read. -/
def Read.cons (c : Char) (r : Read) : Read := r.map fun (s, rest) => (c :: s, rest)

/-- Reads the inside of a string between double quotes, and the closing quote. -/
def readLine : List Char → Read
  | [] => none
  | '\\' :: 'u' :: a :: b :: c :: d :: rest =>
    (numbered? [a, b, c, d]).bind fun x => (readLine rest).cons x
  | '\\' :: 'U' :: a :: b :: c :: d :: e :: f :: g :: h :: rest =>
    (numbered? [a, b, c, d, e, f, g, h]).bind fun x => (readLine rest).cons x
  | '\\' :: e :: rest => (unescape? e).bind fun x => (readLine rest).cons x
  | c :: rest =>
    if c = '\"' then some ([], rest)
    else if c = '\\' || isControl c then none
    else (readLine rest).cons c

/-- Reads the inside of a string between single quotes, and the closing quote. -/
def readRawLine : List Char → Read
  | [] => none
  | c :: rest =>
    if c = '\'' then some ([], rest)
    else if isControl c then none
    else (readRawLine rest).cons c

/-- What follows three closing quotes: up to two more belong to the string. -/
def closing (quote : Char) : List Char → List Char × List Char
  | a :: b :: rest =>
    if a = quote then if b = quote then ([a, b], rest) else ([a], b :: rest)
    else ([], a :: b :: rest)
  | [a] => if a = quote then ([a], []) else ([], [a])
  | [] => ([], [])

/-- The text behind a backslash goes on in another line. -/
def breaksLine (s : List Char) : Bool :=
  match s.dropWhile fun c => c = ' ' || c = '\t' with
  | '\n' :: _ => true
  | '\r' :: '\n' :: _ => true
  | _ => false

/-- Reads the inside of a string between tripled double quotes, and the closing quotes.  While
`skipping`, blanks and line breaks are passed over. -/
def readLines (skipping : Bool) : List Char → Read
  | [] => none
  | '\"' :: '\"' :: '\"' :: rest => some (closing '\"' rest)
  | '\r' :: '\n' :: rest =>
    if skipping then readLines true rest else (readLines false rest).cons '\n'
  | '\\' :: 'u' :: a :: b :: c :: d :: rest =>
    (numbered? [a, b, c, d]).bind fun x => (readLines false rest).cons x
  | '\\' :: 'U' :: a :: b :: c :: d :: e :: f :: g :: h :: rest =>
    (numbered? [a, b, c, d, e, f, g, h]).bind fun x => (readLines false rest).cons x
  | '\\' :: e :: rest =>
    if breaksLine (e :: rest) then readLines true (e :: rest)
    else (unescape? e).bind fun x => (readLines false rest).cons x
  | c :: rest =>
    if skipping && (c = ' ' || c = '\t' || c = '\n') then readLines true rest
    else if c = '\n' then (readLines false rest).cons c
    else if c = '\\' || isControl c then none
    else (readLines false rest).cons c

/-- Reads the inside of a string between tripled single quotes, and the closing quotes. -/
def readRawLines : List Char → Read
  | [] => none
  | '\'' :: '\'' :: '\'' :: rest => some (closing '\'' rest)
  | '\r' :: '\n' :: rest => (readRawLines rest).cons '\n'
  | c :: rest =>
    if c = '\n' then (readRawLines rest).cons c
    else if isControl c then none
    else (readRawLines rest).cons c

/-- The text without a line break at its front. -/
def skipBreak : List Char → List Char
  | '\n' :: rest => rest
  | '\r' :: '\n' :: rest => rest
  | s => s

/-- Reads a string in any of the four kinds of quotes. -/
def readString : List Char → Read
  | '\"' :: '\"' :: '\"' :: rest => readLines false (skipBreak rest)
  | '\"' :: rest => readLine rest
  | '\'' :: '\'' :: '\'' :: rest => readRawLines (skipBreak rest)
  | '\'' :: rest => readRawLine rest
  | _ => none

end OpenSql.Toml
