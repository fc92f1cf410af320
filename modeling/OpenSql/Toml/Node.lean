/-
# OpenSql.Toml.Node — documents of the TOML format, and how statements build them.

A document is a table.  It is built by statements: a header names the table that the following
entries go to, and an entry has a key of one or more names.  Tables come into being in three ways,
and the format's rules against defining something twice depend on which: a table may be opened by a
header once, entries with dotted keys may extend only tables that such entries have made, and a table
written between braces is never extended.
-/

namespace OpenSql.Toml

/-- How a table came into being. -/
inductive Origin where
  /-- By a header of its own, or as an element of a list of tables. -/
  | header
  /-- As a part of the path of a longer header. -/
  | implied
  /-- As a part of a dotted key. -/
  | dotted
deriving DecidableEq

/-- A value or a table.  Of a number that is no integer, and of a date or a time, a configuration
needs to know no more than that it is one. -/
inductive Node where
  | string (s : String)
  | integer (n : Int)
  | boolean (b : Bool)
  | real
  | dateTime
  | array (elements : List Node)
  /-- A table between braces. -/
  | inline (entries : List (String × Node))
  | table (origin : Origin) (entries : List (String × Node))
  /-- A list of tables with headers. -/
  | tables (elements : List (List (String × Node)))

/-- The entries of a table, in their order; no key repeats. -/
abbrev Entries := List (String × Node)

namespace Entries

/-- The node of a key. -/
def get? (key : String) (entries : Entries) : Option Node :=
  (entries.find? (·.1 == key)).map (·.2)

/-- Puts a node in the place of a key's. -/
def replace (key : String) (node : Node) (entries : Entries) : Entries :=
  entries.map fun entry => if entry.1 == key then (key, node) else entry

/-- Adds an entry for a new key at the end. -/
def add (key : String) (node : Node) (entries : Entries) : Entries := entries ++ [(key, node)]

/-- Changes the table at the end of a path of header names.  Tables that are missing on the way are
made; of a list of tables the last one is meant. -/
def atPath (change : Entries → Option Entries) : List String → Entries → Option Entries
  | [], entries => change entries
  | key :: path, entries =>
    match entries.get? key with
    | none => (atPath change path []).map fun inner => entries.add key (.table .implied inner)
    | some (.table origin inner) =>
      (atPath change path inner).map fun inner => entries.replace key (.table origin inner)
    | some (.tables elements) =>
      match elements.getLast? with
      | none => none
      | some last => (atPath change path last).map fun last =>
          entries.replace key (.tables (elements.dropLast ++ [last]))
    | some _ => none

/-- Opens the table of a header: a new one, or one that longer headers have implied. -/
def openTable (path : List String) (key : String) (root : Entries) : Option Entries :=
  root.atPath (fun entries =>
    match entries.get? key with
    | none => some (entries.add key (.table .header []))
    | some (.table .implied inner) => some (entries.replace key (.table .header inner))
    | some _ => none) path

/-- Opens one more table of a list of tables. -/
def openElement (path : List String) (key : String) (root : Entries) : Option Entries :=
  root.atPath (fun entries =>
    match entries.get? key with
    | none => some (entries.add key (.tables [[]]))
    | some (.tables elements) => some (entries.replace key (.tables (elements ++ [[]])))
    | some _ => none) path

/-- Adds an entry with a dotted key, whose last name is `key`.  The table that gets the entry must
have been made by dotted keys, unless it is the one that the path starts from. -/
def insertDotted (key : String) (node : Node) : Bool → List String → Entries → Option Entries
  | allowed, [], entries =>
    if allowed && (entries.get? key).isNone then some (entries.add key node) else none
  | _, name :: path, entries =>
    match entries.get? name with
    | none => (insertDotted key node true path []).map fun inner =>
        entries.add name (.table .dotted inner)
    | some (.table .header _) => none
    | some (.table origin inner) =>
      (insertDotted key node (origin == .dotted) path inner).map fun inner =>
        entries.replace name (.table origin inner)
    | some (.tables elements) =>
      match elements.getLast? with
      | none => none
      | some last => (insertDotted key node false path last).map fun last =>
          entries.replace name (.tables (elements.dropLast ++ [last]))
    | some _ => none

/-- Adds an entry with a key of one or more names. -/
def insert (path : List String) (node : Node) (entries : Entries) : Option Entries :=
  match path.getLast? with
  | none => none
  | some key => entries.insertDotted key node true path.dropLast

end Entries

end OpenSql.Toml
