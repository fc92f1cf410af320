/-
# OpenSql.Proofs.Lookup — the columns of a row, found by name.

A row keeps its columns twice: side by side in their order, and by their upper-case names in an index.  The
second is there for speed alone.  What ties it to the first is one statement about every name, kept by every
column that joins: the index knows the place where a scan of the columns would find that name, and knows
nothing where a scan would find nothing.  So a lookup is a scan, the index says nothing that the names do
not say, and rows with the same names have indexes that cannot be told apart.
-/
import Mathlib.Data.List.Forall2
import OpenSql.Row

namespace OpenSql.Row

/-! ## What a row holds -/

/-- The column answers to the name, whatever the case of the letters of either. -/
def answers (name : String) (column : String × Value) : Bool :=
  Text.upper column.1 == Text.upper name

/-- A row that holds columns in their order.  For every upper-case name its index has the place of the
first column that carries it. -/
structure Holds (row : Row) (columns : List (String × Value)) : Prop where
  names : row.names.toList = columns.map (·.1)
  values : row.values.toList = columns.map (·.2)
  index : ∀ key, row.index[key]? = columns.findIdx? fun column => Text.upper column.1 == key

namespace Holds

variable {row other : Row} {columns others : List (String × Value)}

theorem nothing : Row.empty.Holds [] where
  names := rfl
  values := rfl
  index key := by simp [Row.empty]

theorem size_eq (h : row.Holds columns) : row.size = columns.length := by
  have hlength := congrArg List.length h.values
  simpa [Row.size] using hlength

/-- A column joins at the end, and its name takes the new place only when no column has it yet. -/
theorem addColumn (h : row.Holds columns) (name : String) (value : Value) :
    (row.addColumn name value).Holds (columns ++ [(name, value)]) where
  names := by simp [h.names]
  values := by simp [h.values]
  index key := by
    have hlast : ([(name, value)].findIdx? fun column => Text.upper column.1 == key) =
        if Text.upper name == key then some 0 else none := by simp
    rw [List.findIdx?_append, hlast, ← h.index key]
    show (row.index.insertIfNew (Text.upper name) row.values.size)[key]? = _
    rw [Std.HashMap.getElem?_insertIfNew]
    by_cases hkey : Text.upper name = key
    · subst hkey
      by_cases hmem : Text.upper name ∈ row.index
      · simp [hmem]
      · have hsize : row.values.size = columns.length := h.size_eq
        simp [hmem, hsize]
    · simp [hkey]

theorem addColumns (h : row.Holds columns) (more : List (String × Value)) :
    (more.foldl (fun row (name, value) => row.addColumn name value) row).Holds (columns ++ more) := by
  induction more generalizing row columns with
  | nil => simpa using h
  | cons column more ih => simpa using ih (h.addColumn column.1 column.2)

/-! ## Reading it -/

theorem columns_eq (h : row.Holds columns) : row.columns = columns := by
  unfold Row.columns
  rw [h.names, h.values]
  exact (List.zip_of_prod rfl rfl).symm

theorem get?_eq (h : row.Holds columns) (place : Nat) :
    row.get? place = columns[place]?.map (·.2) := by
  unfold Row.get?
  rw [← Array.getElem?_toList, h.values, List.getElem?_map]

/-- Going through the index is scanning the columns. -/
theorem find?_eq (h : row.Holds columns) (name : String) :
    row.find? name = (columns.find? (answers name)).map (·.2) := by
  calc row.find? name
      = (columns.findIdx? (answers name)).bind row.get? := by
        unfold Row.find?
        rw [h.index]
        rfl
    _ = (columns.findIdx? (answers name)).bind fun place => columns[place]?.map (·.2) := by
        rw [funext h.get?_eq]
    _ = ((columns.findIdx? (answers name)).bind (columns[·]?)).map (·.2) := by
        rw [Option.map_bind]
        rfl
    _ = (columns.find? (answers name)).map (·.2) := by rw [List.find?_eq_bind_findIdx?_getElem?]

/-- The first column of a name stays the first. -/
theorem find?_addColumn (h : row.Holds columns) {query : String} {found : Value}
    (hfound : row.find? query = some found) (name : String) (value : Value) :
    (row.addColumn name value).find? query = some found := by
  rw [h.find?_eq] at hfound
  rw [(h.addColumn name value).find?_eq, List.find?_append, Option.map_or, hfound]
  rfl

theorem isSome_find? (h : row.Holds columns) {column : String × Value} (hmem : column ∈ columns) :
    (row.find? column.1).isSome := by
  rw [h.find?_eq, Option.isSome_map, List.find?_isSome]
  exact ⟨column, hmem, by simp [answers]⟩

/-! ## Comparing two -/

/-- The names determine the index. -/
theorem index_beq (h : row.Holds columns) (hother : other.Holds others)
    (hnames : columns.map (·.1) = others.map (·.1)) : (row.index == other.index) = true := by
  apply Std.HashMap.beq_iff_equiv.mpr
  apply Std.HashMap.Equiv.of_forall_getElem?_eq
  intro key
  have hscan (columns : List (String × Value)) :
      (columns.findIdx? fun column => Text.upper column.1 == key) =
        (columns.map (·.1)).findIdx? fun name => Text.upper name == key := by
    rw [List.findIdx?_map]
    rfl
  rw [h.index, hother.index, hscan, hscan, hnames]

theorem beq_iff (h : row.Holds columns) (hother : other.Holds others) :
    (row == other) = true ↔ columns.map (·.1) = others.map (·.1) ∧
      (columns.map (·.2) == others.map (·.2)) = true := by
  show (row.names == other.names && row.values == other.values && row.index == other.index) = true ↔ _
  rw [Bool.and_eq_true, Bool.and_eq_true, ← Array.beq_toList, ← Array.beq_toList, h.names,
    hother.names, h.values, hother.values, beq_iff_eq]
  constructor
  · intro hsame
    exact hsame.1
  · intro hsame
    exact ⟨hsame, h.index_beq hother hsame.1⟩

end Holds

/-! ## Rows made column by column -/

theorem holds_ofColumns (columns : List (String × Value)) : (ofColumns columns).Holds columns :=
  Holds.nothing.addColumns columns

/-- Lists are compared pair by pair. -/
theorem beq_iff_forall₂ {α : Type} [BEq α] {xs ys : List α} :
    (xs == ys) = true ↔ List.Forall₂ (fun x y => (x == y) = true) xs ys := by
  induction xs generalizing ys with
  | nil => cases ys <;> simp
  | cons x xs ih => cases ys <;> simp [ih]

/-- A row that was made column by column.  It gives back its columns in their order, repeated names
included; a lookup finds what a scan for the upper-case name finds first, so that no column that joins
later is found in place of an earlier one and no column's name is looked up in vain; and two such rows are
equal exactly when their names are the same and their values are equal one by one. -/
theorem lookup_scans (columns : List (String × Value)) :
    let row := ofColumns columns
    (∀ query, row.find? query = (columns.find? fun column =>
        Text.upper column.1 == Text.upper query).map (·.2)) ∧
    (∀ name value query found, row.find? query = some found →
      (row.addColumn name value).find? query = some found) ∧
    (∀ column ∈ columns, (row.find? column.1).isSome) ∧
    (row.columns = columns ∧ row.names.toList = columns.map (·.1) ∧
      row.size = columns.length ∧ ∀ place, row.get? place = columns[place]?.map (·.2)) ∧
    ∀ others, (row == ofColumns others) = true ↔
      columns.map (·.1) = others.map (·.1) ∧
        List.Forall₂ (fun x y => (x == y) = true) (columns.map (·.2)) (others.map (·.2)) := by
  intro row
  have hrow : row.Holds columns := holds_ofColumns columns
  refine ⟨hrow.find?_eq, ?_, ?_, ?_, ?_⟩
  · intro name value query found hfound
    exact hrow.find?_addColumn hfound name value
  · intro column hmem
    exact hrow.isSome_find? hmem
  · exact ⟨hrow.columns_eq, hrow.names, hrow.size_eq, hrow.get?_eq⟩
  · intro others
    rw [hrow.beq_iff (holds_ofColumns others), beq_iff_forall₂]

end OpenSql.Row
