/-
# OpenSql.Logging.Filter — directives that say what is logged.

A filter is a list of directives with commas between them.  A directive is a level, or a target and a
level, and may name a span with its fields between brackets.  Only whether a filter follows the
grammar matters here.

A directive is scanned without the white space at its ends, but its parts are cut at the places of
that scan out of the text as it was given.  So white space before a level makes the level unknown.
-/
import OpenSql.Decimal.Digits
import OpenSql.Text.AlphanumericTable
import OpenSql.Text.Ascii
import OpenSql.Text.Blank
import OpenSql.Text.Ranges

namespace OpenSql.Logging

/-- What is wrong with a filter. -/
inductive FilterError where
  | badDirective
  | badLevel
deriving DecidableEq

/-- The words for an error. -/
def FilterError.message : FilterError → String
  | badDirective => "invalid filter directive"
  | badLevel => "error parsing level filter: expected one of \"off\", \"error\", \"warn\", " ++
      "\"info\", \"debug\", \"trace\", or a number 0-5"

/-- The names of levels. -/
def levelNames : List String := ["off", "error", "warn", "info", "debug", "trace"]

/-- A text that names a level, by name or by number. -/
def isLevel (s : List Char) : Bool :=
  let ds := match s with
    | '+' :: rest => rest
    | _ => s
  (!ds.isEmpty && ds.all Char.isDigit && Decimal.ofDigits ds ≤ 5) ||
    levelNames.any fun name => Text.lower s == name.toList

/-- A letter or a digit of any script. -/
def isAlphanumeric (c : Char) : Bool := Text.inRanges Text.alphanumericBounds c.toNat

/-- What a scan is inside of; places are counted in characters. -/
inductive Scan where
  | start
  | levelOrTarget
  | span
  | field (since : Nat)
  | fields
  | target
  | level (since : Nat)

/-- Looks at one more character, at the given place. -/
def Scan.next (text : List Char) (place : Nat) (c : Char) : Scan → Except FilterError Scan
  | start =>
    if c = '[' then .ok span
    else if c = '-' || c = ':' || c = '_' || isAlphanumeric c then .ok levelOrTarget
    else .error .badDirective
  | levelOrTarget =>
    if c = '=' then .ok (level (place + 1))
    else if c = '[' then .ok span
    else .ok levelOrTarget
  | span =>
    if c = ']' then .ok target
    else if c = '\x7b' then .ok (field (place + 1))
    else .ok span
  | field since =>
    if c = '\x7d' then
      if ((text.take place).drop since).isEmpty then .error .badDirective else .ok fields
    else .ok (field since)
  | fields => if c = ']' then .ok target else .error .badDirective
  | target => if c = '=' then .ok (level (place + 1)) else .error .badDirective
  | level since => .ok (level since)

/-- Looks at the characters in their order. -/
def Scan.run (text : List Char) (place : Nat) (scan : Scan) :
    List Char → Except FilterError Scan
  | [] => .ok scan
  | c :: s =>
    match scan.next text place c with
    | .error e => .error e
    | .ok scan => Scan.run text (place + 1) scan s

/-- Checks one directive. -/
def checkDirective (text : List Char) : Except FilterError Unit :=
  match Scan.start.run text 0 (Text.trim text) with
  | .error e => .error e
  | .ok .levelOrTarget => .ok ()
  | .ok .target => .ok ()
  | .ok (.level since) =>
    let level := text.drop since
    if level.isEmpty || isLevel level then .ok () else .error .badLevel
  | .ok _ => .error .badDirective

/-- Checks the directives of a filter; empty ones are passed over. -/
def checkFilter (filter : String) : Except FilterError Unit :=
  ((Text.pieces ',' filter.toList).filter fun s => !s.isEmpty).forM checkDirective

end OpenSql.Logging
