import SqlAssembly.Proofs.Insert.Columns
import SqlAssembly.Proofs.Insert.Reading

/-!
# The grid of values to bind

The values of an insert stand in a grid: one line for each row, and in each line
the values under the columns of the insert, in their order.  They are bound line
by line, so that a value is found at a place computed from its row and its
column (`getElem?_grid`).  A row is read by its columns, whatever their order in
it, and where no row lacks a column nothing goes wrong
(`Binding.flattened_eq_grid`).
-/

namespace SqlAssembly

/-- The value of a row under a column, if it is one of its columns. -/
def Row.valueAt (row : Row) (column : String) : Value := (row.bindings.get? column).getD .null

/-- The values of rows under columns, row by row. -/
def grid (columns : List String) (rows : List Row) : List Value :=
  rows.flatMap fun row => columns.map row.valueAt

theorem length_grid (columns : List String) (rows : List Row) :
    (grid columns rows).length = columns.length * rows.length :=
  length_flatMap_of_width (fun _ => List.length_map _) rows

/-- A value stands at the place of its row times the width of the grid plus that of its column. -/
theorem getElem?_grid {columns : List String} {rows : List Row} {r c : Nat} {row : Row}
    {column : String} (here : rows[r]? = some row) (under : columns[c]? = some column) :
    (grid columns rows)[r * columns.length + c]? = some (row.valueAt column) := by
  have within : c < columns.length := (List.getElem?_eq_some_iff.1 under).1
  rw [grid, getElem?_flatMap_of_width (fun _ => List.length_map _) here within, List.getElem?_map,
    under, Option.map_some]

/-! ## Reading rows -/

namespace Row

theorem hasColumn_entries (row : Row) (column : String) :
    row.entries.HasColumn column ↔ column ∈ row.columns := by
  rw [← Entries.isSome_get?_str_iff, get?_entries, isSome_get?_iff]

theorem valueAt_entries (row : Row) : row.entries.valueAt = row.valueAt := by
  funext column
  rw [Entries.valueAt, get?_entries, valueAt]

theorem item_toValue {row : Row} {column : String} (there : column ∈ row.columns) :
    row.toValue.item (.str column) = .ok (row.valueAt column) := by
  rw [← valueAt_entries]
  exact Entries.item_str row.cell ((row.hasColumn_entries column).2 there)

end Row

/-- Rows that lack no column are read into their grid. -/
theorem Binding.flattened_eq_grid [Machine] {columns : List String} {rows : List Row}
    (there : ∀ row ∈ rows, ∀ column ∈ columns, column ∈ row.columns) (cell : Cell) (desk : Desk) :
    flattened (Value.ofItems (columns.map .str)) (.list cell (rows.map Row.toValue)) desk =
      (.ok (grid columns rows), desk) := by
  refine rowsValues_of_each (fun row among index desk => ?_) 0 desk
  have complete : row.entries.IsComplete columns := fun column wanted =>
    (row.hasColumn_entries column).2 (there row among column wanted)
  rw [← row.valueAt_entries]
  exact rowValues_of_complete rfl row.cell index desk complete

end SqlAssembly
