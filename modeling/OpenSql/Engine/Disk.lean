/-
# OpenSql.Engine.Disk — files of databases, and the locks that connections hold on them.

Many connections may read a file at a time, and one of them may prepare a change meanwhile.  To write
its change it waits for all readers to go, and no new ones are let in.  A lock that cannot be had is
refused at once; the file is then busy.
-/
import OpenSql.Engine.Table
import OpenSql.FileTree

namespace OpenSql.Engine

/-- What a file holds. -/
inductive Contents where
  /-- What was there before any database. -/
  | bytes (bytes : List UInt8)
  | database (db : Database)

/-- The locks, each stronger than the one before. -/
inductive Lock where
  | none
  /-- The connection reads. -/
  | shared
  /-- The connection prepares a change. -/
  | reserved
  /-- The connection waits for readers to go. -/
  | pending
  /-- The connection writes. -/
  | exclusive
deriving DecidableEq

namespace Lock

/-- The place of a lock in the order of strength. -/
def rank : Lock → Nat
  | none => 0
  | shared => 1
  | reserved => 2
  | pending => 3
  | exclusive => 4

/-- The stronger of two locks. -/
def max (a b : Lock) : Lock := if a.rank < b.rank then b else a

end Lock

/-- A lock that a connection holds on a file. -/
structure Holding where
  connection : Nat
  file : List String
  lock : Lock

/-- Files with their locks. -/
structure Disk where
  tree : FileTree Contents := {}
  holdings : List Holding := []
  /-- The number of the next connection. -/
  next : Nat := 0

/-- The failure when a lock cannot be had. -/
def busyFailure : EngineFailure := .running .busy "database is locked"

/-- The failure when a file is no database. -/
def strangeFileFailure : EngineFailure := .running .special "file is not a database"

namespace Disk

/-! ## Locks -/

/-- The lock that a connection holds on a file. -/
def lockOf (d : Disk) (connection : Nat) (file : List String) : Lock :=
  match d.holdings.find? fun h => h.connection == connection && h.file == file with
  | some h => h.lock
  | none => .none

/-- The strongest lock that other connections hold on a file. -/
def otherLock (d : Disk) (connection : Nat) (file : List String) : Lock :=
  (d.holdings.filter fun h => h.connection != connection && h.file == file).foldl
    (fun lock h => lock.max h.lock) .none

/-- Sets the lock of a connection on a file. -/
def setLock (d : Disk) (connection : Nat) (file : List String) (lock : Lock) : Disk :=
  let others := d.holdings.filter fun h => !(h.connection == connection && h.file == file)
  { d with holdings :=
      if lock = .none then others else ⟨connection, file, lock⟩ :: others }

/-- A connection that reads can be let in. -/
def admitsReader (d : Disk) (connection : Nat) (file : List String) : Bool :=
  d.lockOf connection file != .none ||
    (d.otherLock connection file).rank < Lock.pending.rank

/-- Lets a connection read. -/
def lockShared (d : Disk) (connection : Nat) (file : List String) : Except EngineFailure Disk :=
  if d.admitsReader connection file then
    .ok (d.setLock connection file ((d.lockOf connection file).max .shared))
  else .error busyFailure

/-- Lets a connection prepare a change. -/
def lockReserved (d : Disk) (connection : Nat) (file : List String) :
    Except EngineFailure Disk := do
  let d ← d.lockShared connection file
  if Lock.reserved.rank ≤ (d.lockOf connection file).rank then return d
  if Lock.shared.rank < (d.otherLock connection file).rank then throw busyFailure
  return d.setLock connection file .reserved

/-- Lets a connection write; if it has to wait, no new readers are let in from now on. -/
def lockExclusive (d : Disk) (connection : Nat) (file : List String) : Bool × Disk :=
  if d.otherLock connection file = .none then (true, d.setLock connection file .exclusive)
  else (false, d.setLock connection file ((d.lockOf connection file).max .pending))

/-- Takes all locks from a connection. -/
def release (d : Disk) (connection : Nat) : Disk :=
  { d with holdings := d.holdings.filter (·.connection != connection) }

/-! ## Files -/

/-- The database of a file. -/
def database (d : Disk) (file : List String) : Except EngineFailure Database :=
  match d.tree.get? file with
  | some (.database db) => .ok db
  | some (.bytes (_ :: _)) => .error strangeFileFailure
  | some (.bytes []) => .ok {}
  | none => .ok {}

/-- Nothing was written to the file so far. -/
def isEmpty (d : Disk) (file : List String) : Bool :=
  match d.tree.get? file with
  | some (.database _) => false
  | some (.bytes bytes) => bytes.isEmpty
  | none => true

/-- Writes the database of a file. -/
def write (d : Disk) (file : List String) (db : Database) : Disk :=
  { d with tree := d.tree.set file (.database db) }

/-- The names on the way to a file; `.` stays and `..` leads back, whatever is there.  Only a path
from the working directory is known. -/
def simplify (d : Disk) (path : String) : Option (List String) :=
  if path.startsWith "/" then none
  else (FileTree.namesOf path).foldlM (fun names name =>
    if name == "" || name == "." then some names
    else if name == ".." then if names.isEmpty then none else some names.dropLast
    else
      let names := names ++ [name]
      match d.tree.resolve (String.intercalate "/" names) with
      | .error .notDirectory => none
      | .error .nameTooLong => none
      | _ => some names) []

/-- The file that a path leads to, made if it is not there yet. -/
def openFile (d : Disk) (path : String) (mayCreate : Bool) : Option (List String × Disk) := do
  let names ← d.simplify path
  match d.tree.resolve (String.intercalate "/" names) with
  | .ok (.file names) => some (names, d)
  | .ok (.free names) =>
    if mayCreate then some (names, { d with tree := d.tree.set names (.bytes []) }) else none
  | _ => none

end Disk

end OpenSql.Engine
