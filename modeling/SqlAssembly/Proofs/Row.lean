import SqlAssembly.Statement.Prepared

/-!
# Rows

A *row* is a mapping from columns to values: its keys are texts, and each of
them is there once.  Criteria, new values and the rows of an insert are rows.
`Row.toValue` is the row as a value, in the cell that it lives in.

Everything that an operation asks of a row is answered by the lemmas here: its
items are its columns, it has as many of them as values, and a column is found
in it, with its value, exactly if it is one of its columns.
-/

namespace SqlAssembly

/-- Values under columns. -/
structure Row where
  /-- The cell it lives in, if it has been kept. -/
  cell : Cell
  /-- The columns with their values, in order. -/
  bindings : Bindings Value
  /-- Each column is there once. -/
  distinct : (bindings.map Prod.fst).Nodup

namespace Row

/-- A row without columns. -/
def empty : Row := ⟨none, [], List.nodup_nil⟩

/-- The columns, in order. -/
def columns (row : Row) : List String := row.bindings.map Prod.fst

/-- The values, in the order of their columns. -/
def values (row : Row) : List Value := row.bindings.map Prod.snd

/-- The columns with their values, as the entries of a mapping. -/
def entries (row : Row) : Entries := row.bindings.map fun binding => (.str binding.1, binding.2)

/-- The row as a value. -/
def toValue (row : Row) : Value := .mapping row.cell row.entries

theorem columns_nodup (row : Row) : row.columns.Nodup := row.distinct

@[simp] theorem length_values (row : Row) : row.values.length = row.columns.length := by
  simp [values, columns]

@[simp] theorem keys_entries (row : Row) : row.entries.keys = row.columns.map .str := by
  simp [Entries.keys, entries, columns]

@[simp] theorem values_entries (row : Row) : row.entries.values = row.values := by
  simp [Entries.values, entries, values]

@[simp] theorem values_empty : empty.values = [] := rfl

/-! ## What operations ask of a row -/

theorem items_toValue (row : Row) : row.toValue.items = .ok (row.columns.map .str) := by
  rw [toValue, Value.items_mapping, keys_entries]

theorem isGiven_toValue (row : Row) : row.toValue.isGiven = !row.columns.isEmpty := by
  cases h : row.bindings <;> simp [toValue, entries, columns, h]

/-- The values of rows are bound row by row. -/
theorem values_map_toValue (rows : List Row) :
    Binding.values (rows.map toValue) = .ok (rows.flatMap values) := by
  induction rows with
  | nil => rfl
  | cons row rest ih =>
    simp [Binding.values, ih, toValue, Value.entriesBy, bind, Except.bind, pure, Except.pure]

/-! ## Looking up a column -/

/-- A text is the key of an entry exactly if it is its column. -/
theorem find?_entries (row : Row) (column : String) :
    row.entries.find? (fun entry => entry.1.same (.str column)) =
      (row.bindings.find? fun binding => binding.1 == column).map
        fun binding => (.str binding.1, binding.2) := by
  rw [entries, List.find?_map]
  congr 2
  funext binding
  simp [Value.same_str, Bool.beq_comm]

theorem get?_entries (row : Row) (column : String) :
    row.entries.get? (.str column) = row.bindings.get? column := by
  rw [Entries.get?, find?_entries, Bindings.get?, Option.map_map]
  rfl

theorem isSome_get?_iff (row : Row) (column : String) :
    (row.bindings.get? column).isSome = true ↔ column ∈ row.columns := by
  simp [Bindings.get?, columns]

/-- What stands under a column is found under it, since the column is there once. -/
theorem get?_of_mem {row : Row} {column : String} {v : Value}
    (member : (column, v) ∈ row.bindings) : row.bindings.get? column = some v := by
  obtain ⟨cell, bindings, distinct⟩ := row
  induction bindings with
  | nil => cases member
  | cons binding rest ih =>
    obtain ⟨first, current⟩ := binding
    rw [List.map_cons, List.nodup_cons] at distinct
    rcases List.mem_cons.1 member with here | later
    · cases here
      simp [Bindings.get?]
    · have apart : first ≠ column := by
        rintro rfl
        exact distinct.1 (List.mem_map.2 ⟨_, later, rfl⟩)
      have found := ih distinct.2 later
      simp only [Bindings.get?] at found
      simp [Bindings.get?, apart, found]

theorem get?_eq_some_iff {row : Row} {column : String} {v : Value} :
    row.bindings.get? column = some v ↔ (column, v) ∈ row.bindings := by
  refine ⟨fun found => ?_, get?_of_mem⟩
  obtain ⟨binding, here, rfl⟩ := Option.map_eq_some_iff.1 found
  have under : binding.1 = column := by simpa using List.find?_some here
  rw [← under]
  exact List.mem_of_find?_eq_some here

/-- The value under a column is the one that stands there. -/
theorem item_toValue_of_mem {row : Row} {column : String} {v : Value}
    (member : (column, v) ∈ row.bindings) : row.toValue.item (.str column) = .ok v := by
  have found : row.entries.get? (.str column) = some v := by
    rw [get?_entries, get?_of_mem member]
  simp [toValue, Value.item, Value.asKey, Value.obstacle?, bind, Except.bind, pure, Except.pure,
    found]

/-- The value under a column stands where the column does. -/
theorem item_toValue_of_getElem? {row : Row} {i : Nat} {column : String}
    (here : row.columns[i]? = some column) :
    ∃ v, row.values[i]? = some v ∧ row.toValue.item (.str column) = .ok v := by
  rw [columns, List.getElem?_map, Option.map_eq_some_iff] at here
  obtain ⟨⟨_, v⟩, binding, rfl⟩ := here
  refine ⟨v, by rw [values, List.getElem?_map, binding, Option.map_some], ?_⟩
  exact item_toValue_of_mem (List.mem_of_getElem? binding)

end Row

end SqlAssembly
