import SqlAssembly.Proofs.Insert.Reading
import SqlAssembly.Proofs.Session.Independence

/-!
# Rows in one list

The values of rows under given columns are put in one list, row by row.  There
is one exactly if every row has every column, and then it is the grid of the
rows.  Otherwise the first row that lacks a column is refused with all that it
lacks; what comes after that row is not looked at, and nothing is returned of
what came before it (`Session.flattened_rows`).

The columns may be there more than once, and the rows may have more columns
than are asked for, under keys of whatever kind.
-/

namespace SqlAssembly

theorem Columns.items_toValue (columns : Columns) :
    columns.toValue.items = .ok (columns.names.map .str) := by
  cases columns <;> rfl

/-- A mapping has all of some columns. -/
abbrev Mapping.IsComplete (m : Mapping) (columns : List String) : Prop :=
  m.entries.IsComplete columns

namespace Binding

/-- The error of a mapping, at some place, that lacks some of the columns. -/
def lackingError (columns : List String) (index : Nat) (m : Mapping) : InvalidArgument :=
  missingColumns index m.toValue (", ".intercalate (m.entries.lacking columns))

variable {columns : Columns} (desk : Desk)

variable [Machine]

theorem flattened_of_complete (cell : Cell) {rows : List Mapping}
    (complete : ∀ row ∈ rows, row.IsComplete columns.names) :
    flattened columns.toValue (.list cell (rows.map Mapping.toValue)) desk =
      (.ok (rows.flatMap fun row => columns.names.map row.entries.valueAt), desk) :=
  rowsValues_of_each (fun row among index desk =>
    rowValues_of_complete columns.items_toValue row.cell index desk (complete row among)) 0 desk

/-- Of the rows after the first that lacks a column nothing is asked. -/
theorem flattened_of_lacking (cell : Cell) {before : List Mapping} {row : Mapping}
    (complete : ∀ earlier ∈ before, earlier.IsComplete columns.names)
    (lacks : ¬ row.IsComplete columns.names) (later : List Value) :
    (flattened columns.toValue (.list cell (before.map Mapping.toValue ++ row.toValue :: later))
      desk).1 = .error (.invalidArgument (lackingError columns.names before.length row)) := by
  have each : ∀ earlier ∈ before, ∀ index desk,
      rowValues columns.toValue index earlier.toValue desk =
        (.ok (columns.names.map earlier.entries.valueAt), desk) :=
    fun earlier among index desk => rowValues_of_complete columns.items_toValue earlier.cell index
      desk (complete earlier among)
  have refused := rowValues_of_lacking columns.items_toValue row.cell before.length desk lacks
  rw [← Nat.zero_add before.length] at refused
  have ended := rowsValues_of_refused each refused later
  rw [Nat.zero_add] at ended
  exact congrArg Prod.fst ended

end Binding

/-- Where some row lacks a column, there is a first one. -/
theorem Mapping.exists_first_lacking {columns : List String} {rows : List Mapping}
    (lacks : ¬ ∀ row ∈ rows, row.IsComplete columns) :
    ∃ before row later, rows = before ++ row :: later ∧
      (∀ earlier ∈ before, earlier.IsComplete columns) ∧ ¬ row.IsComplete columns := by
  obtain ⟨row, found⟩ : ∃ row,
      rows.find? (fun row => decide (¬ row.IsComplete columns)) = some row := by
    simpa [← Option.isSome_iff_exists] using lacks
  obtain ⟨row_lacks, before, later, rfl, complete⟩ := List.find?_eq_some_iff_append.1 found
  exact ⟨before, row, later, rfl, fun earlier among => by simpa using complete earlier among,
    of_decide_eq_true row_lacks⟩

namespace Session

variable {columns : Columns} {rows : List Mapping}

variable [Machine]

theorem work_flattened (rows : List Value) (cell : Cell) (session : Session) :
    (work (Binding.flattened columns.toValue (.list cell rows)) session).1 =
      (Binding.flattened columns.toValue (.list cell rows) session.desk).1 :=
  work_fst_of_legible (Binding.flattened_legible _ _) session

/-- Rows come to the list of their values, or one of them is refused. -/
theorem flattened_cases (columns : Columns) (cell : Cell) (rows : List Mapping)
    (session : Session) :
    let outcome := (work (Binding.flattened columns.toValue
      (.list cell (rows.map Mapping.toValue))) session).1
    (∀ row ∈ rows, row.IsComplete columns.names) ∧
        outcome = .ok (rows.flatMap fun row => columns.names.map row.entries.valueAt) ∨
      (¬ ∀ row ∈ rows, row.IsComplete columns.names) ∧
        ∃ error, outcome = .error (.invalidArgument error) := by
  intro outcome
  by_cases complete : ∀ row ∈ rows, row.IsComplete columns.names
  · refine .inl ⟨complete, (work_flattened _ cell session).trans ?_⟩
    rw [Binding.flattened_of_complete session.desk cell complete]
  · refine .inr ⟨complete, ?_⟩
    obtain ⟨before, row, later, rfl, earlier_complete, lacks⟩ :=
      Mapping.exists_first_lacking complete
    have refused := Binding.flattened_of_lacking session.desk cell earlier_complete lacks
      (later.map Mapping.toValue)
    rw [← List.map_cons, ← List.map_append] at refused
    exact ⟨_, (work_flattened _ cell session).trans refused⟩

omit [Machine] in
/-- The place of a value: that of its row times the number of columns, and that of its column. -/
theorem getElem?_flattened {names : List String} (complete : ∀ row ∈ rows, row.IsComplete names)
    {r c : Nat} {row : Mapping} {name : String} (here : rows[r]? = some row)
    (under : names[c]? = some name) :
    ∃ key v, (key, v) ∈ row.entries ∧ key.text? = some name ∧
      row.toValue.item (.str name) = .ok v ∧
        (rows.flatMap fun row => names.map row.entries.valueAt)[r * names.length + c]? = some v := by
  have there := complete row (List.mem_of_getElem? here) name (List.mem_of_getElem? under)
  obtain ⟨_, key, stands, is_name⟩ := Entries.mem_of_hasColumn there
  refine ⟨key, row.entries.valueAt name, stands, is_name, Entries.item_str row.cell there, ?_⟩
  rw [getElem?_flatMap_of_width (fun _ => List.length_map _) here
    (List.getElem?_eq_some_iff.1 under).1, List.getElem?_map, under, Option.map_some]

/-- Rows are read into one list exactly if each of them has all columns; a value stands under its
column, at the place of its row times the number of columns plus that of its column.  Otherwise a
first row lacks some column, and that row is refused with all that it lacks, whatever comes after
it.  It never comes to the fault that a key is not there. -/
theorem flattened_rows (columns : Columns) (cell : Cell) (rows : List Mapping)
    (session : Session) :
    let names := columns.names
    let outcome := fun rows : List Value =>
      (work (Binding.flattened columns.toValue (.list cell rows)) session).1
    ((∃ values, outcome (rows.map Mapping.toValue) = .ok values) ↔
        ∀ row ∈ rows, row.IsComplete names) ∧
      (∀ values, outcome (rows.map Mapping.toValue) = .ok values →
        values.length = names.length * rows.length ∧
          ∀ (r c : Nat) (row : Mapping) (name : String), rows[r]? = some row →
            names[c]? = some name → ∃ key v, (key, v) ∈ row.entries ∧ key.text? = some name ∧
              row.toValue.item (.str name) = .ok v ∧ values[r * names.length + c]? = some v) ∧
      ((¬ ∀ row ∈ rows, row.IsComplete names) → ∃ before row later,
        rows = before ++ row :: later ∧ (∀ earlier ∈ before, earlier.IsComplete names) ∧
          ¬ row.IsComplete names) ∧
      (∀ (before : List Mapping) (row : Mapping) (later : List Value),
        (∀ earlier ∈ before, earlier.IsComplete names) → ¬ row.IsComplete names →
          outcome (before.map Mapping.toValue ++ row.toValue :: later) =
            .error (.invalidArgument {
              statement := "insert", argument := "rows"
              detail := "row " ++ toString before.length ++ " is missing columns: " ++
                ", ".intercalate (names.filter fun name => decide (¬ row.entries.HasColumn name))
              value := row.toValue, cause := none })) ∧
      ∀ key, outcome (rows.map Mapping.toValue) ≠ .error (.missingKey key) := by
  intro names outcome
  have cases := flattened_cases columns cell rows session
  refine ⟨⟨fun ⟨values, ok⟩ => ?_, fun complete => ?_⟩, fun values ok => ?_,
    Mapping.exists_first_lacking, fun before row later complete lacks => ?_, fun key missing => ?_⟩
  · obtain ⟨complete, _⟩ | ⟨_, error, refused⟩ := cases
    · exact complete
    · cases refused.symm.trans ok
  · obtain ⟨_, returned⟩ | ⟨lacks, _⟩ := cases
    · exact ⟨_, returned⟩
    · exact absurd complete lacks
  · obtain ⟨complete, returned⟩ | ⟨_, error, refused⟩ := cases
    · cases returned.symm.trans ok
      exact ⟨length_flatMap_of_width (fun _ => List.length_map _) rows,
        fun r c row name => getElem?_flattened complete⟩
    · cases refused.symm.trans ok
  · exact (work_flattened _ cell session).trans
      (Binding.flattened_of_lacking session.desk cell complete lacks later)
  · obtain ⟨_, returned⟩ | ⟨_, error, refused⟩ := cases
    · cases returned.symm.trans missing
    · cases refused.symm.trans missing

/-- A sort direction is the key of a column with its name, and other keys are passed over. -/
example :
    let row : Mapping := ⟨none, [(.int 7, .null), (.direction .asc, .int 1), (.str "a", .int 2)]⟩
    (work (Binding.flattened (Columns.list none ["a", "ASC", "a"]).toValue
      (.list none [row.toValue])) default).1 = .ok [.int 2, .int 1, .int 2] := rfl

end Session

end SqlAssembly
