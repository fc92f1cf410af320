/-
# OpenSql.Engine.Term — expressions whose names are looked up, and their values.

A term reads the columns of a row by number, and an aggregate reads all rows of the result.  Truth has
three values: what is neither true nor false is null, and a comparison with null is null.  Integers
that leave their range become reals, and a division by zero is null.
-/
import OpenSql.Engine.Affinity
import OpenSql.Engine.Expr

namespace OpenSql.Engine

/-- Functions of single values. -/
inductive Function where
  /-- The first argument that is not null. -/
  | coalesce
  /-- Null when both arguments are equal, otherwise the first. -/
  | nullif
  | length
  | lower
  | upper
  | typeName
  | least
  | greatest
deriving DecidableEq

/-- Functions of all rows. -/
inductive Aggregate where
  | count
  | sum
  | total
  | average
  | least
  | greatest
deriving DecidableEq

/-- An expression over columns by number. -/
inductive Term where
  | literal (c : Cell)
  | column (index : Nat) (affinity : Affinity)
  | prefixed (op : Prefixed) (a : Term)
  | binary (op : Operator) (a b : Term)
  | compare (op : Comparison) (affinity : Affinity) (a b : Term)
  | same (negated : Bool) (affinity : Affinity) (a b : Term)
  | inList (negated : Bool) (affinity : Affinity) (a : Term) (items : List Term)
  | like (negated : Bool) (a pattern : Term)
  | cast (affinity : Affinity) (a : Term)
  /-- The second term where the first holds, and the third elsewhere. -/
  | choose (condition a b : Term)
  | call (f : Function) (arguments : List Term)
  /-- An aggregate of a term, or of the rows themselves. -/
  | aggregate (f : Aggregate) (distinct : Bool) (a : Option Term)
deriving Inhabited

/-! ## Truth -/

/-- The cell of a truth value. -/
def ofTruth : Option Bool → Cell
  | none => .null
  | some b => .ofBool b

/-- Both hold. -/
def truthAnd : Option Bool → Option Bool → Option Bool
  | some false, _ => some false
  | _, some false => some false
  | some true, some true => some true
  | _, _ => none

/-- One of both holds. -/
def truthOr : Option Bool → Option Bool → Option Bool
  | some true, _ => some true
  | _, some true => some true
  | some false, some false => some false
  | _, _ => none

/-- Negates a truth value if asked to. -/
def truthNot (negated : Bool) (t : Option Bool) : Option Bool := t.map (· != negated)

namespace Comparison

/-- Whether the order of two cells satisfies the comparison. -/
def holds : Comparison → Ordering → Bool
  | equal, o => o == .eq
  | notEqual, o => o != .eq
  | less, o => o == .lt
  | lessEqual, o => o != .gt
  | greater, o => o == .gt
  | greaterEqual, o => o != .lt

end Comparison

namespace Cell

/-- Compares two cells after moving them towards an affinity; null is comparable to nothing. -/
def comparison (op : Comparison) (affinity : Affinity) (a b : Cell) : Option Bool :=
  if a.isNull || b.isNull then none
  else
    let (x, y) := affinity.applyToSides a b
    some (op.holds (Cell.compare x y))

/-- Two cells are equal after moving them towards an affinity; null equals null alone. -/
def isSame (affinity : Affinity) (a b : Cell) : Bool :=
  let (x, y) := affinity.applyToSides a b
  Cell.compare x y == .eq

/-- A cell is equal to one of a list; that is unknown when a null stands in the way. -/
def memberOf (affinity : Affinity) (a : Cell) (items : List Cell) : Option Bool :=
  items.foldl (fun t item => truthOr t (comparison .equal affinity a item)) (some false)

/-! ## Arithmetic -/

/-- The integer of a number, if it fits; otherwise the real. -/
def integerOr (n : Int) (x : Float) : Cell :=
  if -9223372036854775808 ≤ n ∧ n < 9223372036854775808 then integer (Int64.ofInt n)
  else ofFloat x

/-- Sum, difference and product. -/
def arithmetic (exact : Int → Int → Int) (rounded : Float → Float → Float) (a b : Cell) : Cell :=
  match a.toNumber, b.toNumber with
  | null, _ => null
  | _, null => null
  | integer x, integer y => integerOr (exact x.toInt y.toInt) (rounded x.toFloat y.toFloat)
  | x, y => ofFloat (rounded x.toReal y.toReal)

/-- Quotient; of two integers it is cut towards zero. -/
def quotient (a b : Cell) : Cell :=
  match a.toNumber, b.toNumber with
  | null, _ => null
  | _, null => null
  | integer x, integer y =>
    if y = 0 then null else integerOr (x.toInt.tdiv y.toInt) (x.toFloat / y.toFloat)
  | x, y => if y.toReal == 0.0 then null else ofFloat (x.toReal / y.toReal)

/-- Remainder of the whole parts; it has the sign of the first. -/
def remainder (a b : Cell) : Cell :=
  match a.toNumber, b.toNumber with
  | null, _ => null
  | _, null => null
  | x, y =>
    let n := x.toInteger.toInt
    let d := y.toInteger.toInt
    if d = 0 then null
    else
      let r := Int64.ofInt (n.tmod d)
      match x, y with
      | integer _, integer _ => integer r
      | _, _ => real r.toFloat

/-- Combines the bits of two integers. -/
def bits (f : Int64 → Int64 → Int64) (a b : Cell) : Cell :=
  if a.isNull || b.isNull then null else integer (f a.toInteger b.toInteger)

/-- Shifts to the left, or to the right by a negative amount. -/
def shift (x n : Int64) : Int64 :=
  let n := n.toInt
  if 64 ≤ n then 0
  else if n ≤ -64 then (if x < 0 then -1 else 0)
  else if 0 ≤ n then x <<< Int64.ofInt n
  else x >>> Int64.ofInt (-n)

/-- One text after the other. -/
def concatenation (a b : Cell) : Cell :=
  match a.textBytes?, b.textBytes? with
  | some x, some y => text (x ++ y)
  | _, _ => null

end Cell

/-- The value of an operator with two operands. -/
def Operator.apply : Operator → Cell → Cell → Cell
  | and, a, b => ofTruth (truthAnd a.truth? b.truth?)
  | or, a, b => ofTruth (truthOr a.truth? b.truth?)
  | add, a, b => Cell.arithmetic (· + ·) (· + ·) a b
  | subtract, a, b => Cell.arithmetic (· - ·) (· - ·) a b
  | multiply, a, b => Cell.arithmetic (· * ·) (· * ·) a b
  | divide, a, b => Cell.quotient a b
  | remainder, a, b => Cell.remainder a b
  | concat, a, b => Cell.concatenation a b
  | bitAnd, a, b => Cell.bits (· &&& ·) a b
  | bitOr, a, b => Cell.bits (· ||| ·) a b
  | shiftLeft, a, b => Cell.bits Cell.shift a b
  | shiftRight, a, b => Cell.bits (fun x n => Cell.shift x (-n)) a b

/-- The value of an operator with one operand. -/
def Prefixed.apply : Prefixed → Cell → Cell
  | plus, a => a
  | minus, a => Cell.arithmetic (· - ·) (· - ·) (.integer 0) a
  | not, a => ofTruth (truthNot true a.truth?)
  | bitNot, a => if a.isNull then .null else .integer (~~~ a.toInteger)

/-! ## Patterns -/

/-- All ends of a text, the longest first. -/
def ends : List Char → List (List Char)
  | [] => [[]]
  | c :: s => (c :: s) :: ends s

/-- The texts that are left when a character of a pattern is met at the front of each.  All texts
are ends of one text, the longest first. -/
def likeStep (texts : List (List Char)) (p : Char) : List (List Char) :=
  if p = '%' then
    match texts with
    | [] => []
    | longest :: _ => ends longest
  else texts.filterMap fun
    | [] => none
    | c :: rest => if p = '_' || p.toLower = c.toLower then some rest else none

/-- A text matches a pattern, in which `%` stands for any text and `_` for any character. -/
def likes (pattern text : List Char) : Bool :=
  (pattern.foldl likeStep [text]).any List.isEmpty

/-! ## Functions -/

/-- The characters of a cell's text. -/
def Cell.characters (c : Cell) : List Char :=
  (Text.decodeUtf8Lossy (c.textBytes?.getD [])).toList

/-- The lesser or the greater of two cells. -/
def Cell.better (greater : Bool) (a b : Cell) : Cell :=
  if Cell.compare b a == (if greater then .gt else .lt) then b else a

/-- The least or the greatest of some cells. -/
def Cell.best (greater : Bool) : List Cell → Cell
  | [] => .null
  | c :: cs => cs.foldl (Cell.better greater) c

/-- The name of a cell's kind. -/
def Cell.kindName : Cell → String
  | null => "null"
  | integer _ => "integer"
  | real _ => "real"
  | text _ => "text"
  | blob _ => "blob"

/-- The value of a function. -/
def Function.apply (f : Function) (arguments : List Cell) : Cell :=
  let first := arguments.head?.getD .null
  let onText (g : List Char → List Char) : Cell :=
    if first.isNull then .null else .ofString (String.ofList (g first.characters))
  match f with
  | coalesce => (arguments.find? (!·.isNull)).getD .null
  | nullif =>
    if Cell.comparison .equal .blob first ((arguments.drop 1).head?.getD .null) == some true then
      .null
    else first
  | length => match first with
    | .null => .null
    | .blob bytes => .integer (Int64.ofNat bytes.length)
    | c => .integer (Int64.ofNat (c.characters.takeWhile (· != '\x00')).length)
  | lower => onText (·.map Char.toLower)
  | upper => onText (·.map Char.toUpper)
  | typeName => .ofString first.kindName
  | least => if arguments.any Cell.isNull then .null else Cell.best false arguments
  | greatest => if arguments.any Cell.isNull then .null else Cell.best true arguments

/-- Cells without repetitions, in the order of their first occurrences. -/
def distinctCells (cells : List Cell) : List Cell :=
  (cells.foldl (fun seen c =>
    if seen.any (Cell.compare · c == .eq) then seen else c :: seen) []).reverse

/-- The sum of some cells, as reals if one of them is no integer or if it does not fit. -/
def sumOf (cells : List Cell) : Cell :=
  cells.foldl (Cell.arithmetic (· + ·) (· + ·)) (.integer 0)

/-- The value of an aggregate of cells, of which none is null. -/
def Aggregate.apply (f : Aggregate) (cells : List Cell) : Cell :=
  match f with
  | count => .integer (Int64.ofNat cells.length)
  | sum => if cells.isEmpty then .null else sumOf cells
  | total => .real (sumOf cells).toReal
  | average =>
    if cells.isEmpty then .null
    else .ofFloat ((sumOf cells).toReal / Float.ofNat cells.length)
  | least => Cell.best false cells
  | greatest => Cell.best true cells

/-! ## Values -/

/-- Reads a column of a row by its number. -/
abbrev RowReader := Nat → Cell

namespace Term

mutual

/-- The value of a term in a row, with all rows of the result at hand for aggregates. -/
def value (group : List RowReader) (row : RowReader) : Term → Cell
  | literal c => c
  | column index _ => row index
  | prefixed op a => op.apply (value group row a)
  | binary op a b => op.apply (value group row a) (value group row b)
  | compare op affinity a b =>
    ofTruth (Cell.comparison op affinity (value group row a) (value group row b))
  | same negated affinity a b =>
    .ofBool (Cell.isSame affinity (value group row a) (value group row b) != negated)
  | inList negated affinity a items =>
    ofTruth (truthNot negated
      (Cell.memberOf affinity (value group row a) (values group row items)))
  | like negated a pattern =>
    let x := value group row a
    let p := value group row pattern
    if x.isNull || p.isNull then .null
    else .ofBool (likes p.characters x.characters != negated)
  | cast affinity a => affinity.cast (value group row a)
  | choose condition a b =>
    if (value group row condition).truth? == some true then value group row a
    else value group row b
  | call f arguments => f.apply (values group row arguments)
  | aggregate f distinct a =>
    match a with
    | none => f.apply (group.map fun _ => .integer 1)
    | some a =>
      let cells := (group.map fun row => value [] row a).filter (!·.isNull)
      f.apply (if distinct then distinctCells cells else cells)

/-- The values of terms in a row. -/
def values (group : List RowReader) (row : RowReader) : List Term → List Cell
  | [] => []
  | a :: rest => value group row a :: values group row rest

end

/-- The value of a term that reads no row. -/
def constantValue (a : Term) : Cell := a.value [] (fun _ => .null)

/-- The term holds in a row. -/
def holds (row : RowReader) (a : Term) : Bool := (a.value [] row).truth? == some true

/-- The affinity that a term shows to a comparison. -/
def affinity? : Term → Option Affinity
  | column _ affinity => some affinity
  | cast affinity _ => some affinity
  | _ => none

mutual

/-- The term reads all rows. -/
def isAggregate : Term → Bool
  | literal _ => false
  | column _ _ => false
  | prefixed _ a => a.isAggregate
  | binary _ a b => a.isAggregate || b.isAggregate
  | compare _ _ a b => a.isAggregate || b.isAggregate
  | same _ _ a b => a.isAggregate || b.isAggregate
  | inList _ _ a items => a.isAggregate || anyAggregate items
  | like _ a b => a.isAggregate || b.isAggregate
  | cast _ a => a.isAggregate
  | choose c a b => c.isAggregate || a.isAggregate || b.isAggregate
  | call _ arguments => anyAggregate arguments
  | aggregate _ _ _ => true

/-- One of the terms reads all rows. -/
def anyAggregate : List Term → Bool
  | [] => false
  | a :: rest => a.isAggregate || anyAggregate rest

end

mutual

/-- The columns that a term reads. -/
def columns : Term → List Nat
  | literal _ => []
  | column index _ => [index]
  | prefixed _ a => a.columns
  | binary _ a b => a.columns ++ b.columns
  | compare _ _ a b => a.columns ++ b.columns
  | same _ _ a b => a.columns ++ b.columns
  | inList _ _ a items => a.columns ++ columnsOf items
  | like _ a b => a.columns ++ b.columns
  | cast _ a => a.columns
  | choose c a b => c.columns ++ a.columns ++ b.columns
  | call _ arguments => columnsOf arguments
  | aggregate _ _ a => match a with
    | none => []
    | some a => a.columns

/-- The columns that terms read. -/
def columnsOf : List Term → List Nat
  | [] => []
  | a :: rest => a.columns ++ columnsOf rest

end

/-- The terms that must all hold for the term to hold. -/
def conjuncts : Term → List Term
  | binary .and a b => a.conjuncts ++ b.conjuncts
  | a => [a]

/-- The terms of which one must hold for the term to hold. -/
def disjuncts : Term → List Term
  | binary .or a b => a.disjuncts ++ b.disjuncts
  | a => [a]

end Term

end OpenSql.Engine
