/-
# OpenSql.Row — one row of a result, in select-list order.

Columns keep their order and may repeat a name.  Beside them the row keeps an index from upper-case
names to places, so that a lookup need not scan; the first column of a name keeps its entry.
-/
import Std.Data.HashMap
import OpenSql.Text.Upper
import OpenSql.Value

namespace OpenSql

/-- A row: names and values side by side, and the place of each upper-case name. -/
structure Row where
  names : Array String
  values : Array Value
  index : Std.HashMap String Nat

namespace Row

/-- The row without columns. -/
def empty : Row := ⟨#[], #[], ∅⟩

instance : Inhabited Row := ⟨empty⟩

/-- The row with one more column at its end. -/
def addColumn (row : Row) (name : String) (value : Value) : Row :=
  { names := row.names.push name
    values := row.values.push value
    index := row.index.insertIfNew (Text.upper name) row.values.size }

/-- The row of the columns, in their order. -/
def ofColumns (columns : List (String × Value)) : Row :=
  columns.foldl (fun row (name, value) => row.addColumn name value) empty

/-- The number of columns. -/
def size (row : Row) : Nat := row.values.size

/-- The columns in their order. -/
def columns (row : Row) : List (String × Value) := row.names.toList.zip row.values.toList

/-- The value at a place. -/
def get? (row : Row) (place : Nat) : Option Value := row.values[place]?

/-- The value of the first column of a name, whatever the case of its letters. -/
def find? (row : Row) (name : String) : Option Value :=
  row.index[Text.upper name]?.bind row.get?

/-- Rows are equal when their names, their values and their indexes are. -/
instance : BEq Row :=
  ⟨fun a b => a.names == b.names && a.values == b.values && a.index == b.index⟩

@[simp]
theorem names_addColumn (row : Row) (name : String) (value : Value) :
    (row.addColumn name value).names = row.names.push name := rfl

@[simp]
theorem values_addColumn (row : Row) (name : String) (value : Value) :
    (row.addColumn name value).values = row.values.push value := rfl

@[simp]
theorem size_addColumn (row : Row) (name : String) (value : Value) :
    (row.addColumn name value).size = row.size + 1 := by simp [size]

end Row

end OpenSql
