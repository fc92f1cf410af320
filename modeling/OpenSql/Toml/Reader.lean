/-
# OpenSql.Toml.Reader — documents from TOML text.

A text is a sequence of lines: headers, entries, comments, blank lines.  Values between brackets may
run over several lines.  Values nest at most 79 deep, and no key has more than 79 names.

The readers of nested values take fuel; every nested value takes at least one character, so the
length of the text is enough.
-/
import OpenSql.Toml.Number
import OpenSql.Toml.Quoting

namespace OpenSql.Toml

/-! ## Between the tokens -/

/-- Passes over spaces and tabs. -/
def skipBlanks (s : List Char) : List Char := s.dropWhile fun c => c = ' ' || c = '\t'

/-- Passes over a comment, up to the end of its line. -/
def skipComment : List Char → List Char
  | '#' :: rest => rest.dropWhile fun c => c != '\n' && !isControl c
  | s => s

/-- Ends a line, with a line break or with the text. -/
def endLine? : List Char → Option (List Char)
  | [] => some []
  | '\n' :: rest => some rest
  | '\r' :: '\n' :: rest => some rest
  | _ => none

/-- Passes over what may stand behind a statement on its line, and ends the line. -/
def finishLine? (s : List Char) : Option (List Char) := endLine? (skipComment (skipBlanks s))

/-- Passes over blanks, line breaks and comments with their line breaks. -/
def skipGaps (fuel : Nat) (s : List Char) : List Char :=
  match fuel with
  | 0 => s
  | fuel + 1 =>
    match skipBlanks s with
    | '\n' :: rest => skipGaps fuel rest
    | '\r' :: '\n' :: rest => skipGaps fuel rest
    | '#' :: rest =>
      match skipComment ('#' :: rest) with
      | '\n' :: after => skipGaps fuel after
      | '\r' :: '\n' :: after => skipGaps fuel after
      | _ => '#' :: rest
    | s => s

/-! ## Keys -/

/-- A character of a key without quotes. -/
def isBareKey (c : Char) : Bool := c.isAlphanum || c = '-' || c = '_'

/-- Reads one name of a key. -/
def readName? (s : List Char) : Option (String × List Char) :=
  match s with
  | '\"' :: rest => (readLine rest).map fun (name, s) => (String.ofList name, s)
  | '\'' :: rest => (readRawLine rest).map fun (name, s) => (String.ofList name, s)
  | s =>
    let name := s.takeWhile isBareKey
    if name.isEmpty then none else some (String.ofList name, s.dropWhile isBareKey)

/-- Reads names with points between them. -/
def readNames? (fuel : Nat) (s : List Char) : Option (List String × List Char) :=
  match fuel with
  | 0 => none
  | fuel + 1 => do
    let (name, s) ← readName? (skipBlanks s)
    match skipBlanks s with
    | '.' :: rest => do
      let (names, s) ← readNames? fuel rest
      some (name :: names, s)
    | s => some ([name], s)

/-- The number of names that no key reaches, and the depth that no value reaches. -/
def nestingLimit : Nat := 80

/-- Reads a key. -/
def readKey? (s : List Char) : Option (List String × List Char) := do
  let (names, s) ← readNames? (s.length + 1) s
  if names.length < nestingLimit then some (names, s) else none

/-! ## Values -/

mutual

/-- Reads a value that may hold values nested `depth` deep. -/
def readValue? (fuel depth : Nat) (s : List Char) : Option (Node × List Char) :=
  match fuel with
  | 0 => none
  | fuel + 1 =>
    match s with
    | [] => none
    | c :: rest =>
      if c = '\"' || c = '\'' then
        (readString s).map fun (text, s) => (.string (String.ofList text), s)
      else if c = '[' then
        match depth with
        | 0 => none
        | depth + 1 => (readElements? fuel depth rest).map fun (xs, s) => (.array xs, s)
      else if c = '\x7b' then
        match depth with
        | 0 => none
        | depth + 1 =>
          match skipBlanks rest with
          | '\x7d' :: after => some (.inline [], after)
          | _ => (readPairs? fuel depth [] rest).map fun (xs, s) => (.inline xs, s)
      else if c = 't' then
        (Text.dropExact? ['r', 'u', 'e'] rest).map (.boolean true, ·)
      else if c = 'f' then
        (Text.dropExact? ['a', 'l', 's', 'e'] rest).map (.boolean false, ·)
      else if c = 'i' || c = 'n' then (readSpecial? s).map (.real, ·)
      else readNumber? s

/-- Reads the elements of an array and the closing bracket; a comma may stand behind the last. -/
def readElements? (fuel depth : Nat) (s : List Char) : Option (List Node × List Char) :=
  match fuel with
  | 0 => none
  | fuel + 1 =>
    match skipGaps s.length s with
    | ']' :: after => some ([], after)
    | s => do
      let (x, s) ← readValue? fuel depth s
      match skipGaps s.length s with
      | ',' :: rest => do
        let (xs, after) ← readElements? fuel depth rest
        some (x :: xs, after)
      | ']' :: after => some ([x], after)
      | _ => none

/-- Reads the entries of a table between braces and the closing brace. -/
def readPairs? (fuel depth : Nat) (entries : Entries) (s : List Char) :
    Option (Entries × List Char) :=
  match fuel with
  | 0 => none
  | fuel + 1 => do
    let (path, s) ← readKey? s
    let s ← Text.dropExact? ['='] s
    let (x, s) ← readValue? fuel depth (skipBlanks s)
    let entries ← entries.insert path x
    match skipBlanks s with
    | ',' :: rest => readPairs? fuel depth entries rest
    | '\x7d' :: after => some (entries, after)
    | _ => none

end

/-! ## Documents -/

/-- Reads an entry up to the end of its line. -/
def readEntry? (s : List Char) : Option (List String × Node × List Char) := do
  let (path, s) ← readKey? s
  let s ← Text.dropExact? ['='] s
  let s := skipBlanks s
  let (x, s) ← readValue? (2 * s.length + 2) (nestingLimit - 1) s
  let s ← finishLine? s
  some (path, x, s)

/-- Reads the path and the last name of a header, and what closes it, up to the end of its line. -/
def readHeader? (close : List Char) (s : List Char) :
    Option (List String × String × List Char) := do
  let (names, s) ← readKey? s
  let s ← Text.dropExact? close s
  let s ← finishLine? s
  some (names.dropLast, ← names.getLast?, s)

/-- Reads the rest of a document, with the root table so far and the path of the open table. -/
def readStatements? (fuel : Nat) (root : Entries) (path : List String) (s : List Char) :
    Option Entries :=
  match fuel with
  | 0 => none
  | fuel + 1 =>
    match skipBlanks s with
    | [] => some root
    | '[' :: '[' :: rest => do
      let (path, key, s) ← readHeader? [']', ']'] rest
      let root ← root.openElement path key
      readStatements? fuel root (path ++ [key]) s
    | '[' :: rest => do
      let (path, key, s) ← readHeader? [']'] rest
      let root ← root.openTable path key
      readStatements? fuel root (path ++ [key]) s
    | c :: rest =>
      if c = '#' || c = '\n' || c = '\r' then
        (finishLine? (c :: rest)).bind (readStatements? fuel root path)
      else do
        let (names, x, s) ← readEntry? (c :: rest)
        let root ← root.atPath (Entries.insert names x) path
        readStatements? fuel root path s

/-- The document of a text, which may start with a byte order mark. -/
def read? (s : List Char) : Option Entries :=
  let s := match s with
    | '\uFEFF' :: rest => rest
    | s => s
  readStatements? (s.length + 1) [] [] s

end OpenSql.Toml
