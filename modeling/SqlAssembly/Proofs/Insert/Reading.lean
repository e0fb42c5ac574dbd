import SqlAssembly.Binding

/-!
# Reading mappings by columns

The rows of an insert are mappings, and any mapping may be one.  It *has* a
column if one of its keys is that text, or a sort direction with that token;
keys of other kinds are never asked for (`Entries.HasColumn`).

A row that has all columns is read under each of them, and nothing is recorded
(`Binding.rowValues_of_complete`).  One that lacks some is refused, with all that
it lacks, in the order of the columns (`Binding.rowValues_of_lacking`).  Rows are
read one after the other up to the first that is refused
(`Binding.rowsValues_of_each`, `Binding.rowsValues_of_refused`).
-/

namespace SqlAssembly

/-! ## Lines of one width -/

section

variable {α β : Type} {f : α → List β} {width : Nat}

theorem length_flatMap_of_width (same : ∀ a, (f a).length = width) (rows : List α) :
    (rows.flatMap f).length = width * rows.length := by
  induction rows with
  | nil => rfl
  | cons row rest ih =>
    rw [List.flatMap_cons, List.length_append, same, ih, List.length_cons, Nat.mul_succ,
      Nat.add_comm]

/-- An item stands at the place of its line times the width, plus its place in the line. -/
theorem getElem?_flatMap_of_width (same : ∀ a, (f a).length = width) {rows : List α} {r c : Nat}
    {row : α} (here : rows[r]? = some row) (within : c < width) :
    (rows.flatMap f)[r * width + c]? = (f row)[c]? := by
  induction rows generalizing r with
  | nil => cases here
  | cons first rest ih =>
    cases r with
    | zero =>
      cases here
      rw [List.flatMap_cons, Nat.zero_mul, Nat.zero_add,
        List.getElem?_append_left (by rw [same]; exact within)]
    | succ r =>
      have beyond : (r + 1) * width + c = width + (r * width + c) := by
        rw [Nat.succ_mul, Nat.add_comm (r * width), Nat.add_assoc]
      rw [List.flatMap_cons, beyond, List.getElem?_append_right (by rw [same]; omega), same,
        Nat.add_sub_cancel_left]
      exact ih here

end

/-! ## Columns of a mapping -/

/-- What is the same as a text is that text, or a sort direction with that token. -/
theorem Value.same_text (v : Value) (s : String) : v.same (.str s) = (v.text? == some s) := by
  have apart : inOneCell v (.str s) = false := by
    cases v.cell? <;> simp [inOneCell, cell?]
  rw [same, apart, Bool.false_or]
  cases v with
  | str t => exact Bool.beq_comm
  | direction d => exact Bool.beq_comm
  | _ => rfl

namespace Entries

/-- A column is one of the keys, as a text or as the token of a sort direction. -/
def HasColumn (entries : Entries) (column : String) : Prop :=
  ∃ entry ∈ entries, entry.1.text? = some column

instance (entries : Entries) (column : String) : Decidable (entries.HasColumn column) :=
  inferInstanceAs (Decidable (∃ entry ∈ entries, entry.1.text? = some column))

/-- All of some columns are there. -/
def IsComplete (entries : Entries) (columns : List String) : Prop :=
  ∀ column ∈ columns, entries.HasColumn column

instance (entries : Entries) (columns : List String) : Decidable (entries.IsComplete columns) :=
  inferInstanceAs (Decidable (∀ column ∈ columns, entries.HasColumn column))

/-- Those of some columns that are not there, in their order. -/
def lacking (entries : Entries) (columns : List String) : List String :=
  columns.filter fun column => decide (¬ entries.HasColumn column)

/-- The value under a column, if it is there. -/
def valueAt (entries : Entries) (column : String) : Value :=
  (entries.get? (.str column)).getD .null

variable {entries : Entries} {column : String} {columns : List String}

theorem lacking_eq_nil_iff : entries.lacking columns = [] ↔ entries.IsComplete columns := by
  simp [lacking, IsComplete, List.filter_eq_nil_iff]

theorem isSome_get?_str_iff :
    (entries.get? (.str column)).isSome = true ↔ entries.HasColumn column := by
  simp [get?, HasColumn, Value.same_text]

/-- What is found under a column stands under a key that is one. -/
theorem mem_of_hasColumn (there : entries.HasColumn column) :
    entries.get? (.str column) = some (entries.valueAt column) ∧
      ∃ key, (key, entries.valueAt column) ∈ entries ∧ key.text? = some column := by
  obtain ⟨v, found⟩ := Option.isSome_iff_exists.1 (isSome_get?_str_iff.2 there)
  have value : entries.valueAt column = v := by rw [valueAt, found, Option.getD_some]
  obtain ⟨⟨key, w⟩, here, rfl⟩ := Option.map_eq_some_iff.1 found
  have is_column : key.text? = some column := by
    simpa [Value.same_text] using List.find?_some here
  rw [value]
  exact ⟨found, key, List.mem_of_find?_eq_some here, is_column⟩

variable [Machine]

theorem holds_str (cell : Cell) (entries : Entries) (column : String) :
    (Value.mapping cell entries).holds (.str column) = .ok (decide (entries.HasColumn column)) := by
  have same : (entries.get? (.str column)).isSome = decide (entries.HasColumn column) := by
    rw [Bool.eq_iff_iff, isSome_get?_str_iff, decide_eq_true_iff]
  rw [← same]
  rfl

omit [Machine] in
theorem item_str (cell : Cell) (there : entries.HasColumn column) :
    (Value.mapping cell entries).item (.str column) = .ok (entries.valueAt column) := by
  have key : (Value.str column).asKey = .ok (.str column) := rfl
  have found := (mem_of_hasColumn there).1
  rw [Value.item, key]
  dsimp only [bind, Except.bind]
  rw [found]
  rfl

end Entries

/-! ## Reading rows -/

namespace Binding

variable [Machine]

section

variable {columns : List String} {entries : Entries}

theorem missing_mapping (cell : Cell) (entries : Entries) (columns : List String) :
    missing (.mapping cell entries) (columns.map .str) =
      .ok ((entries.lacking columns).map .str) := by
  induction columns with
  | nil => rfl
  | cons column rest ih =>
    rw [List.map_cons, missing, Entries.holds_str, ih]
    by_cases there : entries.HasColumn column <;>
      simp [Entries.lacking, there, bind, Except.bind, pure, Except.pure]

omit [Machine] in
theorem picked_mapping (cell : Cell) (complete : entries.IsComplete columns) :
    picked (.mapping cell entries) (columns.map .str) = .ok (columns.map entries.valueAt) := by
  induction columns with
  | nil => rfl
  | cons column rest ih =>
    obtain ⟨there, rest_complete⟩ := List.forall_mem_cons.1 complete
    rw [List.map_cons, picked, Entries.item_str cell there, ih rest_complete]
    rfl

variable {fields : Value} (named : fields.items = .ok (columns.map .str)) (cell : Cell)
  (index : Nat) (desk : Desk)

include named

/-- A row that lacks no column is read without a fault and without an event. -/
theorem rowValues_of_complete (complete : entries.IsComplete columns) :
    rowValues fields index (.mapping cell entries) desk =
      (.ok (columns.map entries.valueAt), desk) := by
  simp only [rowValues, named, missing_mapping, Entries.lacking_eq_nil_iff.2 complete,
    picked_mapping cell complete, Build.bind_apply, Build.lift_apply, List.map_nil,
    List.isEmpty_nil, if_true]

/-- The error of a row that lacks some of the columns: it names all that it lacks. -/
theorem rowValues_of_lacking (lacks : ¬ entries.IsComplete columns) :
    let error := missingColumns index (.mapping cell entries)
      (", ".intercalate (entries.lacking columns))
    rowValues fields index (.mapping cell entries) desk =
      (.error (.invalidArgument error),
        desk.record (error.event .parameters [("row_index", .count index)])) := by
  intro error
  have some_lacking : ((entries.lacking columns).map Value.str).isEmpty = false := by
    simpa using mt Entries.lacking_eq_nil_iff.1 lacks
  simp only [rowValues, named, missing_mapping, Value.joinItems_map_str, some_lacking,
    Build.bind_apply, Build.lift_apply, Bool.false_eq_true, if_false, Build.refuse_apply]
  rfl

end

section

variable {α : Type} {fields : Value} {read : α → Value} {values : α → List Value} {rows : List α}

/-- Rows that are each read without an event are read one after the other. -/
theorem rowsValues_of_each (each : ∀ row ∈ rows, ∀ index desk,
      rowValues fields index (read row) desk = (.ok (values row), desk)) (index : Nat)
    (desk : Desk) :
    rowsValues fields index (rows.map read) desk = (.ok (rows.flatMap values), desk) := by
  induction rows generalizing index with
  | nil => rfl
  | cons row rest ih =>
    obtain ⟨first, later⟩ := List.forall_mem_cons.1 each
    rw [List.map_cons, rowsValues, Build.bind_of_ok (first index desk),
      Build.bind_of_ok (ih later (index + 1))]
    rfl

/-- A row that is refused after such rows ends the reading, whatever comes after it. -/
theorem rowsValues_of_refused (each : ∀ row ∈ rows, ∀ index desk,
      rowValues fields index (read row) desk = (.ok (values row), desk)) {row : Value}
    {fault : Fault} {index : Nat} {desk after : Desk}
    (refused : rowValues fields (index + rows.length) row desk = (.error fault, after))
    (later : List Value) :
    rowsValues fields index (rows.map read ++ row :: later) desk = (.error fault, after) := by
  induction rows generalizing index with
  | nil => exact Build.bind_of_error refused
  | cons first rest ih =>
    obtain ⟨first_read, rest_read⟩ := List.forall_mem_cons.1 each
    have refused_rest : rowValues fields (index + 1 + rest.length) row desk =
        (.error fault, after) := by
      rw [← refused, List.length_cons, Nat.add_assoc, Nat.add_comm 1]
    rw [List.map_cons, List.cons_append, rowsValues, Build.bind_of_ok (first_read index desk),
      Build.bind_of_error (ih rest_read refused_rest)]

end

end Binding

end SqlAssembly
