/-
# OpenSql.FileTree — a directory of files, and what paths mean in it.

Programs name files by paths that start from a working directory, or from the root above it.  Of the
files only those under the working directory are known; above it there are directories that hold
nothing known.  A path is walked name by name, and every name but the last must lead to a directory.
-/
import OpenSql.Text.Ascii
import OpenSql.Text.Utf8

namespace OpenSql

/-- Why a path leads nowhere. -/
inductive PathError where
  | missing
  | notDirectory
  | isDirectory
  | nameTooLong
  /-- The path holds a NUL character. -/
  | nulInPath
deriving DecidableEq

/-- The words of the operating system for an error. -/
def PathError.message : PathError → String
  | missing => "No such file or directory (os error 2)"
  | notDirectory => "Not a directory (os error 20)"
  | isDirectory => "Is a directory (os error 21)"
  | nameTooLong => "File name too long (os error 36)"
  | nulInPath => "file name contained an unexpected NUL byte"

/-- Files by their places under the working directory. -/
structure FileTree (α : Type) where
  files : List (List String × α) := []

namespace FileTree

/-- Where a walk has come to. -/
inductive Place where
  /-- A directory under the working directory, or that directory itself. -/
  | directory (names : List String)
  | file (names : List String)
  /-- A directory above the working directory. -/
  | above
  /-- A name that is free in a directory. -/
  | free (names : List String)
deriving DecidableEq

/-- The file at a place. -/
def get? (names : List String) (tree : FileTree α) : Option α :=
  (tree.files.find? (·.1 == names)).map (·.2)

/-- Puts a file at a place. -/
def set (names : List String) (x : α) (tree : FileTree α) : FileTree α :=
  if (tree.get? names).isSome then
    ⟨tree.files.map fun file => if file.1 == names then (names, x) else file⟩
  else ⟨tree.files ++ [(names, x)]⟩

/-- A directory stands at a place when files are below it. -/
def isDirectory (names : List String) (tree : FileTree α) : Bool :=
  names.isEmpty ||
    tree.files.any fun file => names.length < file.1.length && names.isPrefixOf file.1

/-- The names of a path between slashes. -/
def namesOf (path : String) : List String := (Text.pieces '/' path.toList).map String.ofList

/-- The greatest number of bytes in a name. -/
def nameLimit : Nat := 255

/-- The number of bytes that a path stays below. -/
def pathLimit : Nat := 4096

/-- One step of a walk. -/
def step (tree : FileTree α) (place : Place) (name : String) : Except PathError Place :=
  match place with
  | .free _ => .error .missing
  | .file _ => .error .notDirectory
  | .above =>
    if name == "" || name == "." || name == ".." then .ok .above
    else if nameLimit < name.utf8ByteSize then .error .nameTooLong
    else .error .missing
  | .directory names =>
    if name == "" || name == "." then .ok (.directory names)
    else if name == ".." then .ok (if names.isEmpty then .above else .directory names.dropLast)
    else if nameLimit < name.utf8ByteSize then .error .nameTooLong
    else
      let names := names ++ [name]
      if (tree.get? names).isSome then .ok (.file names)
      else if tree.isDirectory names then .ok (.directory names)
      else .ok (.free names)

/-- The place that a path leads to.  Its last name may be free. -/
def resolve (tree : FileTree α) (path : String) : Except PathError Place :=
  if path.isEmpty then .error .missing
  else if path.contains '\x00' then .error .nulInPath
  else if pathLimit ≤ path.utf8ByteSize then .error .nameTooLong
  else
    let start : Place := if path.startsWith "/" then .above else .directory []
    (namesOf path).foldlM tree.step start

/-- The file that a path leads to. -/
def read (tree : FileTree α) (path : String) : Except PathError α := do
  match ← tree.resolve path with
  | .directory _ => .error .isDirectory
  | .above => .error .isDirectory
  | .free _ => .error .missing
  | .file names =>
    match tree.get? names with
    | some x => .ok x
    | none => .error .missing

end FileTree

end OpenSql
