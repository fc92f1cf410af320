/-
# OpenSql.Engine.Location — where a database is, from its name.

A name is a path, or a `file:` address with a path and parameters.  The parameters may narrow how the
file is opened, and they may keep the database in memory.  A database without a path is private to its
connection.
-/
import OpenSql.Engine.Table
import OpenSql.Text.Hex

namespace OpenSql.Engine

/-- How a database may be used. -/
structure AccessMode where
  mayWrite : Bool := true
  mayCreate : Bool := true
  inMemory : Bool := false
deriving DecidableEq

/-- Where a database is. -/
structure Location where
  /-- The path of its file; none for a private database. -/
  path : Option String
  mode : AccessMode

namespace Location

/-! ## Addresses -/

/-- The part before a character, and the part behind it if the character occurs. -/
def splitAt (c : Char) (s : List Char) : List Char × Option (List Char) :=
  let head := s.takeWhile (· != c)
  match s.drop head.length with
  | [] => (head, none)
  | _ :: rest => (head, some rest)

/-- The bytes of a text in which `%` and two digits stand for a byte; a byte 0 ends it. -/
def unescape : List Char → List UInt8
  | '%' :: a :: b :: rest =>
    match Text.hexValue? a, Text.hexValue? b with
    | some x, some y =>
      if x * 16 + y = 0 then [] else UInt8.ofNat (x * 16 + y) :: unescape rest
    | _, _ => 0x25 :: unescape (a :: b :: rest)
  | c :: rest => Text.encodeUtf8 (String.singleton c) ++ unescape rest
  | [] => []

/-- The text of a part of an address. -/
def part (s : List Char) : String := Text.decodeUtf8Lossy (unescape s)

/-- The parameters of an address; those without a name do not count. -/
def parameters (query : List Char) : List (String × String) :=
  (Text.pieces '&' query).filterMap fun piece =>
    let (name, value) := splitAt '=' piece
    if (part name).isEmpty then none else some (part name, part (value.getD []))

/-- The path behind the authority of an address; only the own machine is one. -/
def withoutAuthority (s : List Char) : Except EngineFailure (List Char) :=
  match s with
  | '/' :: '/' :: rest =>
    let authority := rest.takeWhile (· != '/')
    if authority.isEmpty || authority == "localhost".toList then
      .ok (rest.drop authority.length)
    else .error (generalFailure ("invalid uri authority: " ++ String.ofList authority))
  | s => .ok s

/-- The mode of a name, unless it allows more than the current one. -/
def narrow (mode : AccessMode) (value : String) : Except EngineFailure AccessMode :=
  let allowed (fits : Bool) (new : AccessMode) : Except EngineFailure AccessMode :=
    if fits || mode.inMemory then .ok new
    else .error (.running .special ("access mode not allowed: " ++ value))
  match value with
  | "ro" => .ok { mayWrite := false, mayCreate := false }
  | "rw" => allowed mode.mayWrite { mayCreate := false }
  | "rwc" => allowed (mode.mayWrite && mode.mayCreate) {}
  | "memory" => .ok { inMemory := true }
  | _ => .error (generalFailure ("no such access mode: " ++ value))

/-- The names of ways to reach files. -/
def fileSystems : List String := ["unix", "unix-dotfile", "unix-excl", "unix-none"]

/-- Applies one parameter. -/
def applyParameter (mode : AccessMode) (parameter : String × String) :
    Except EngineFailure AccessMode :=
  match parameter with
  | ("mode", value) => narrow mode value
  | ("cache", value) =>
    if value == "shared" || value == "private" then .ok mode
    else .error (generalFailure ("no such cache mode: " ++ value))
  | _ => .ok mode

/-- The way to reach files is known. -/
def checkFileSystem (parameters : List (String × String)) : Except EngineFailure Unit :=
  match parameters.reverse.find? (·.1 == "vfs") with
  | some (_, value) =>
    if fileSystems.contains value then .ok ()
    else .error (generalFailure ("no such vfs: " ++ value))
  | none => .ok ()

/-- The location of an address behind `file:`. -/
def ofAddress (s : List Char) : Except EngineFailure Location := do
  let s ← withoutAuthority s
  let (path, query) := splitAt '?' (s.takeWhile (· != '#'))
  let parameters := parameters (query.getD [])
  let mode ← parameters.foldlM applyParameter {}
  checkFileSystem parameters
  let path := part path
  let isPrivate := mode.inMemory || path.isEmpty || path == ":memory:"
  return ⟨if isPrivate then none else some path, mode⟩

/-! ## Names -/

/-- The location of a name. -/
def ofName (name : String) : Except EngineFailure Location :=
  let chars := name.toList
  if chars.contains '\x00' then
    .error (.nulInName (String.ofList (chars.takeWhile (· != '\x00'))).utf8ByteSize)
  else match Text.dropExact? "file:".toList chars with
    | some address => ofAddress address
    | none =>
      if name.isEmpty || name == ":memory:" then .ok ⟨none, {}⟩ else .ok ⟨some name, {}⟩

end Location

end OpenSql.Engine
