import SqlAssembly.Proofs.Clause.Joining
import SqlAssembly.Proofs.Insert.Grid
import SqlAssembly.Proofs.Insert.Size

/-!
# Inserts of rows

An insert of rows succeeds exactly if there are rows with columns, the same in
all of them, and memory holds the insert and its values.  What it binds is then
the grid of the rows.  Otherwise it says what is wrong: that there are no rows,
which row is the first one with other columns, or that there are no columns
(`Prepared.insert_complete`).

The operations that it is made of have checks of their own, for a row that
lacks a column and for a number of rows that is none.  They never come to
anything here.
-/

namespace SqlAssembly

namespace Prepared

/-- The columns of an insert: those of the first row, in their order there. -/
def fields : List Row → List String
  | [] => []
  | first :: _ => first.columns

/-- Rows that can be inserted: there are some, with columns, the same in all of them. -/
structure Insertable (rows : List Row) : Prop where
  some_rows : rows ≠ []
  some_columns : fields rows ≠ []
  same_columns : ∀ row ∈ rows, row.HasColumns (fields rows)

theorem fields_eq_nil {rows : List Row} (none_there : ∀ row ∈ rows, row.columns = []) :
    fields rows = [] := by
  cases rows with
  | nil => rfl
  | cons first rest => exact none_there first List.mem_cons_self

theorem Insertable.not_firstOdd {rows : List Row} (insertable : Insertable rows) {i : Nat}
    {row : Row} : ¬ FirstOdd (fields rows) rows i row := fun first_odd =>
  first_odd.odd (insertable.same_columns row (List.mem_of_getElem? first_odd.here))

/-- Rows that cannot be inserted are none, or one of them is odd, or they have no columns. -/
theorem cases_of_not_insertable {rows : List Row} (not_insertable : ¬ Insertable rows) :
    rows = [] ∨ (∃ i row, FirstOdd (fields rows) rows i row) ∨
      rows ≠ [] ∧ ∀ row ∈ rows, row.columns = [] := by
  by_cases some_rows : rows = []
  · exact Or.inl some_rows
  · by_cases same : ∀ row ∈ rows, row.HasColumns (fields rows)
    · have no_fields : fields rows = [] :=
        Decidable.byContradiction fun some_columns =>
          not_insertable ⟨some_rows, some_columns, same⟩
      refine Or.inr (Or.inr ⟨some_rows, fun row among => ?_⟩)
      have same_row := same row among
      rw [no_fields] at same_row
      exact List.eq_nil_iff_forall_not_mem.2 fun column there =>
        absurd ((same_row column).1 there) List.not_mem_nil
    · exact Or.inr (Or.inl (exists_firstOdd same))

/-! ## Runs that end with a refusal -/

section

variable [Machine]

/-- Rows whose insert memory holds, and with it a sequence of their values. -/
structure Held (table : String) (rows : List Row) : Prop where
  insert : Statement.Fits table (fields rows) rows.length
  values : (fields rows).length * rows.length * Statement.placeSize < Machine.memory

variable {table : Value} {cell : Cell} {rows : List Row} {desk : Desk}

theorem insert_nil :
    insert table (.list cell []) desk =
      (.error (.invalidArgument noRows), desk.record (noRows.event .prepared [])) := rfl

/-- The columns are those of the first row, and the other rows are checked. -/
theorem insertColumns_cons (first : Row) (rest : List Row) :
    insertColumns (.list cell ((first :: rest).map Row.toValue)) =
      (rowsError? (first.columns.map .str) 1 (rest.map Row.toValue)).map
        fun error => (first.columns.map .str, error) := by
  have others : (Value.list cell ((first :: rest).map Row.toValue)).itemsAfterFirst =
      .ok (rest.map Row.toValue) := rfl
  rw [insertColumns, List.map_cons, Value.item_list_zero, ← List.map_cons, others]
  simp only [bind, Except.bind, members_toValue]
  cases rowsError? (first.columns.map .str) 1 (rest.map Row.toValue) <;> rfl

/-- A row that has an error is refused. -/
theorem insert_of_error {rows : Value} (given : rows.isGiven = true) {columns : List Value}
    {error : InvalidArgument} (checked : insertColumns rows = .ok (columns, some error)) :
    insert table rows desk =
      (.error (.invalidArgument error), desk.record (error.event .prepared [])) := by
  simp only [insert, given, Bool.not_true, Bool.false_eq_true, if_false, Build.bind_apply,
    Build.lift_apply, checked, Build.refuse_apply]

/-- Where no row has one, the statement is built first, and then the rows are read. -/
theorem insert_of_no_error {rows : Value} (given : rows.isGiven = true) {columns : List Value}
    (checked : insertColumns rows = .ok (columns, none)) {size : Nat}
    (sized : rows.size = .ok size) :
    insert table rows desk =
      (Statement.insert table (Value.ofItems columns) (.int size) >>= fun sql =>
        Binding.flattened (Value.ofItems columns) rows >>= fun params =>
          (liftM (Binding.hold (params.length * Statement.placeSize)) : Build Unit) >>= fun _ =>
            pure ⟨sql, params⟩) desk := by
  simp only [insert, given, Bool.not_true, Bool.false_eq_true, if_false, Build.bind_apply,
    Build.lift_apply, checked, sized]

theorem insert_of_firstOdd {i : Nat} {row : Row} (first_odd : FirstOdd (fields rows) rows i row) :
    insert table (.list cell (rows.map Row.toValue)) desk =
      (.error (.invalidArgument (columnsError (fields rows) i row)),
        desk.record ((columnsError (fields rows) i row).event .prepared [])) := by
  cases rows with
  | nil => cases first_odd.here
  | cons first rest =>
    cases i with
    | zero =>
      have here := first_odd.here
      cases here
      exact absurd (fun _ => Iff.rfl) first_odd.odd
    | succ i =>
      have error : rowsError? (first.columns.map .str) 1 (rest.map Row.toValue) =
          .ok (some (columnsError first.columns (i + 1) row)) := by
        rw [Nat.add_comm i 1]
        exact rowsError?_eq_some first.columns_nodup first_odd.tail 1
      have checked : insertColumns (.list cell ((first :: rest).map Row.toValue)) =
          .ok (first.columns.map .str, some (columnsError first.columns (i + 1) row)) := by
        rw [insertColumns_cons, error]
        rfl
      exact insert_of_error rfl checked

/-- Where all rows have the same columns, what is bound is their grid, if memory holds it. -/
theorem insert_of_hasColumns (some_rows : rows ≠ [])
    (same : ∀ row ∈ rows, row.HasColumns (fields rows)) :
    insert table (.list cell (rows.map Row.toValue)) desk =
      (Statement.insert table (Value.ofItems ((fields rows).map .str)) (.int rows.length) >>=
        fun sql => (liftM (Binding.hold ((fields rows).length * rows.length *
          Statement.placeSize)) : Build Unit) >>= fun _ =>
            pure ⟨sql, grid (fields rows) rows⟩) desk := by
  cases rows with
  | nil => exact absurd rfl some_rows
  | cons first rest =>
    have passed : rowsError? (first.columns.map .str) 1 (rest.map Row.toValue) = .ok none :=
      rowsError?_eq_none (fun row among => same row (List.mem_cons_of_mem _ among)) 1
    have checked : insertColumns (.list cell ((first :: rest).map Row.toValue)) =
        .ok ((fields (first :: rest)).map .str, none) := by
      rw [insertColumns_cons, passed]
      rfl
    have sized : (Value.list cell ((first :: rest).map Row.toValue)).size =
        .ok (first :: rest).length :=
      congrArg Except.ok (List.length_map _)
    rw [insert_of_no_error rfl checked sized, Build.bind_apply, Build.bind_apply]
    split
    · next sql after built =>
      rw [Build.bind_of_ok (Binding.flattened_eq_grid (fun row among column =>
        (same row among column).2) cell after), length_grid]
    · rfl

/-! ## The statement of an insert -/

section

variable {table : String} {columns : List String} {n : Nat}

/-- The number of rows of an insert of some rows with some columns is accepted. -/
theorem insertRows_eq_ok (some_columns : columns ≠ []) (some_rows : n ≠ 0) :
    Statement.insertRows (Value.ofItems (columns.map .str)) (.int n) = .ok n := by
  have given : (Value.ofItems (columns.map .str)).isGiven = true := by
    simpa [Value.ofItems] using some_columns
  have count : Statement.rowCount? (.int n) = some n := by
    rw [Statement.rowCount?, if_pos (by omega), Int.toNat_natCast]
  have no_text : (Value.ofItems (columns.map .str)).text? = none := rfl
  simp only [Statement.insertRows, no_text, given, count, Option.isSome_none, Bool.not_true,
    Bool.or_self, Bool.false_eq_true, if_false]

omit [Machine] in
theorem size_columns (columns : List String) :
    (Value.ofItems (columns.map .str)).size = .ok columns.length :=
  congrArg Except.ok (List.length_map _)

omit [Machine] in
theorem join_columns (columns : List String) :
    (Value.ofItems (columns.map .str)).join "," = .ok (",".intercalate columns) :=
  Value.joinItems_map_str "," columns

theorem statement_of_fits (some_columns : columns ≠ []) (some_rows : n ≠ 0) (desk : Desk)
    (fits : Statement.Fits table columns n) :
    Statement.insert (.str table) (Value.ofItems (columns.map .str)) (.int n) desk =
      (.ok (Statement.insertText (.str table) (",".intercalate columns)
        (Binding.group columns.length) n), desk.record (Statement.built .insert "insert"
          (.str table) (("rows", .count n) :: Statement.placeholderCount (columns.length * n)))) :=
  Statement.insert_of_fits (insertRows_eq_ok some_columns some_rows) (size_columns columns)
    (join_columns columns) desk fits

theorem statement_of_not_fits (some_columns : columns ≠ []) (some_rows : n ≠ 0) (desk : Desk)
    (large : ¬ Statement.Fits table columns n) :
    Statement.insert (.str table) (Value.ofItems (columns.map .str)) (.int n) desk =
      (.error (Statement.sizeFault n), desk) :=
  Statement.insert_of_not_fits (insertRows_eq_ok some_columns some_rows) (size_columns columns)
    (join_columns columns) desk large

end

theorem insert_of_no_columns (some_rows : rows ≠ []) (none_there : ∀ row ∈ rows, row.columns = []) :
    insert table (.list cell (rows.map Row.toValue)) desk =
      (.error (.invalidArgument (Statement.noColumns (Value.ofItems []))),
        desk.record ((Statement.noColumns (Value.ofItems [])).event .insert [])) := by
  have same : ∀ row ∈ rows, row.HasColumns (fields rows) := by
    intro row among column
    rw [none_there row among, fields_eq_nil none_there]
  rw [insert_of_hasColumns some_rows same, fields_eq_nil none_there]
  rfl

/-! ## All runs -/

section

variable {table : String}

theorem insert_of_not_fits (insertable : Insertable rows)
    (large : ¬ Statement.Fits table (fields rows) rows.length) :
    insert (.str table) (.list cell (rows.map Row.toValue)) desk =
      (.error (Statement.sizeFault rows.length), desk) := by
  rw [insert_of_hasColumns insertable.some_rows insertable.same_columns,
    Build.bind_of_error (statement_of_not_fits insertable.some_columns
      (mt List.length_eq_zero_iff.1 insertable.some_rows) desk large)]

/-- The statement of rows that fit is built, and then memory has to hold their values. -/
theorem insert_of_fits (insertable : Insertable rows)
    (fits : Statement.Fits table (fields rows) rows.length) :
    ∃ sql after, Statement.insert (.str table) (Value.ofItems ((fields rows).map .str))
        (.int rows.length) desk = (.ok sql, after) ∧
      after = desk.record (Statement.built .insert "insert" (.str table)
        (("rows", .count rows.length) ::
          Statement.placeholderCount ((fields rows).length * rows.length))) ∧
      insert (.str table) (.list cell (rows.map Row.toValue)) desk =
        ((Binding.hold ((fields rows).length * rows.length * Statement.placeSize)).map fun _ =>
          ⟨sql, grid (fields rows) rows⟩, after) := by
  have statement := statement_of_fits insertable.some_columns
    (mt List.length_eq_zero_iff.1 insertable.some_rows) desk fits
  refine ⟨_, _, statement, rfl, ?_⟩
  rw [insert_of_hasColumns insertable.some_rows insertable.same_columns,
    Build.bind_of_ok statement, Build.bind_apply, Build.lift_apply]
  cases Binding.hold ((fields rows).length * rows.length * Statement.placeSize) <;> rfl

end

/-- What an insert of rows comes to. -/
inductive Outcome (table : String) (rows : List Row) (desk : Desk) : Except Fault Prepared → Prop
  /-- There are no rows. -/
  | noRows (none_there : rows = []) : Outcome table rows desk (.error (.invalidArgument noRows))
  /-- Some row has other columns than the first one; the first such row is refused. -/
  | oddRow {i : Nat} {row : Row} (first_odd : FirstOdd (fields rows) rows i row) :
      Outcome table rows desk (.error (.invalidArgument (columnsError (fields rows) i row)))
  /-- No row has a column. -/
  | noColumns (some_rows : rows ≠ []) (none_there : ∀ row ∈ rows, row.columns = []) :
      Outcome table rows desk (.error (.invalidArgument (Statement.noColumns (Value.ofItems []))))
  /-- Memory does not hold the insert or its values. -/
  | tooMany {fault : Fault} (insertable : Insertable rows) (not_held : ¬ Held table rows)
      (by_size : fault = .outOfMemory ∨ fault = .repetitionTooLarge) :
      Outcome table rows desk (.error fault)
  /-- The statement is built, and the values of the rows are bound. -/
  | done {sql : String} {after : Desk} (insertable : Insertable rows) (held : Held table rows)
      (built : Statement.insert (.str table) (Value.ofItems ((fields rows).map .str))
        (.int rows.length) desk = (.ok sql, after)) :
      Outcome table rows desk (.ok ⟨sql, grid (fields rows) rows⟩)

omit [Machine] in
theorem sizeFault_cases (n : Nat) :
    Statement.sizeFault n = .outOfMemory ∨ Statement.sizeFault n = .repetitionTooLarge := by
  unfold Statement.sizeFault
  split
  · exact Or.inr rfl
  · exact Or.inl rfl

theorem insert_outcome (table : String) (cell : Cell) (rows : List Row) (desk : Desk) :
    Outcome table rows desk (insert (.str table) (.list cell (rows.map Row.toValue)) desk).1 := by
  by_cases insertable : Insertable rows
  · by_cases fits : Statement.Fits table (fields rows) rows.length
    · obtain ⟨sql, after, built, _, run⟩ := @insert_of_fits _ cell rows desk table insertable fits
      rw [run, Binding.hold]
      by_cases large : Machine.memory ≤ (fields rows).length * rows.length * Statement.placeSize
      · rw [if_pos large]
        exact .tooMany insertable (fun held => Nat.not_le.2 held.values large) (Or.inl rfl)
      · rw [if_neg large]
        exact .done insertable ⟨fits, Nat.not_le.1 large⟩ built
    · rw [insert_of_not_fits insertable fits]
      exact .tooMany insertable (fun held => fits held.insert) (sizeFault_cases _)
  · rcases cases_of_not_insertable insertable with none_there | ⟨i, row, first_odd⟩ |
      ⟨some_rows, none_there⟩
    · rw [none_there, List.map_nil, insert_nil]
      exact .noRows rfl
    · rw [insert_of_firstOdd first_odd]
      exact .oddRow first_odd
    · rw [insert_of_no_columns some_rows none_there]
      exact .noColumns some_rows none_there

omit [Machine] in
/-- The errors of a row with other columns and of a row that lacks some read differently. -/
theorem columnsError_ne_missingColumns (columns : List String) (i index : Nat) (row : Row)
    (v : Value) (names : String) :
    columnsError columns i row ≠ Binding.missingColumns index v names := by
  intro same
  have details : (columnsError columns i row).detail =
    (Binding.missingColumns index v names).detail := by rw [same]
  simp only [columnsError, otherColumns, Binding.missingColumns, String.append_assoc,
    String.append_right_inj] at details
  generalize (Value.ofItems (Value.mergedTexts (row.columns.map .str))).literal ++ _ = sets
    at details
  have cut : i.repr.toList ++ ' ' :: ("columns " ++ sets).toList =
      index.repr.toList ++ ' ' :: ("is missing columns: " ++ names).toList := by
    simpa using congrArg String.toList details
  obtain ⟨_, rest⟩ := Clause.first_cut_unique (Clause.not_mem_repr (by decide) i)
    (Clause.not_mem_repr (by decide) index) cut
  simp at rest

namespace Outcome

variable {table : String} {outcome : Except Fault Prepared}

/-- Rows that can be inserted are inserted, unless they are too many. -/
theorem of_insertable (comes : Outcome table rows desk outcome) (insertable : Insertable rows) :
    (Held table rows ∧ ∃ p, outcome = .ok p) ∨
      ¬ Held table rows ∧ (outcome = .error .outOfMemory ∨ outcome = .error .repetitionTooLarge) := by
  cases comes with
  | noRows none_there => exact absurd none_there insertable.some_rows
  | oddRow first_odd => exact absurd first_odd insertable.not_firstOdd
  | noColumns _ none_there => exact absurd (fields_eq_nil none_there) insertable.some_columns
  | tooMany _ not_held by_size =>
    rcases by_size with rfl | rfl
    · exact Or.inr ⟨not_held, Or.inl rfl⟩
    · exact Or.inr ⟨not_held, Or.inr rfl⟩
  | done _ held _ => exact Or.inl ⟨held, _, rfl⟩

theorem ok_iff (comes : Outcome table rows desk outcome) :
    (∃ p, outcome = .ok p) ↔ Insertable rows ∧ Held table rows := by
  constructor
  · rintro ⟨p, rfl⟩
    cases comes with
    | done insertable held _ => exact ⟨insertable, held⟩
  · rintro ⟨insertable, held⟩
    rcases comes.of_insertable insertable with ⟨_, inserted⟩ | ⟨not_held, _⟩
    · exact inserted
    · exact absurd held not_held

theorem size_fault (comes : Outcome table rows desk outcome) (insertable : Insertable rows)
    (not_held : ¬ Held table rows) :
    outcome = .error .outOfMemory ∨ outcome = .error .repetitionTooLarge := by
  rcases comes.of_insertable insertable with ⟨held, _⟩ | ⟨_, by_size⟩
  · exact absurd held not_held
  · exact by_size

/-- No row is found to lack a column. -/
theorem ne_missingColumns (comes : Outcome table rows desk outcome) (index : Nat) (v : Value)
    (names : String) :
    outcome ≠ .error (.invalidArgument (Binding.missingColumns index v names)) := by
  rintro rfl
  generalize missing : Binding.missingColumns index v names = error at comes
  cases comes with
  | noRows _ =>
    have start : Prepared.noRows.detail.toList.head? = some 'r' := by
      rw [← missing]
      simp [Binding.missingColumns]
    exact absurd start (by decide)
  | oddRow first_odd => exact columnsError_ne_missingColumns _ _ _ _ _ _ missing.symm
  | noColumns _ _ =>
    have argument : "rows" = "fields" := congrArg InvalidArgument.argument missing
    exact absurd argument (by decide)
  | tooMany _ _ by_size => rcases by_size with no_refusal | no_refusal <;> cases no_refusal

/-- The number of rows is never refused. -/
theorem ne_noRowCount (comes : Outcome table rows desk outcome) (v : Value) :
    outcome ≠ .error (.invalidArgument (Statement.noRowCount v)) := by
  rintro rfl
  generalize refused : Statement.noRowCount v = error at comes
  cases comes with
  | noRows _ | oddRow _ =>
    have argument : "row_count" = "rows" := congrArg InvalidArgument.argument refused
    exact absurd argument (by decide)
  | noColumns _ _ =>
    have argument : "row_count" = "fields" := congrArg InvalidArgument.argument refused
    exact absurd argument (by decide)
  | tooMany _ _ by_size => rcases by_size with no_refusal | no_refusal <;> cases no_refusal

end Outcome

/-- Inserting rows succeeds exactly if there are rows with columns, the same in all, and memory
holds the insert and its values.  The statement is then that of the columns of the first row, and
the value of a row under a column is bound at its place in the grid.  Otherwise the rows, the first
row with other columns or the columns are refused, or there are too many rows; no row is found to
lack a column, and the number of rows is never refused. -/
theorem insert_complete (table : String) (cell : Cell) (rows : List Row) (desk : Desk) :
    let outcome := (insert (.str table) (.list cell (rows.map Row.toValue)) desk).1
    let width := (fields rows).length
    ((∃ p, outcome = .ok p) ↔ Insertable rows ∧ Held table rows) ∧
    (∀ p, outcome = .ok p →
      (∃ after, Statement.insert (.str table) (Value.ofItems ((fields rows).map .str))
        (.int rows.length) desk = (.ok p.sql, after)) ∧
      p.params.length = width * rows.length ∧
      ∀ r c row column, rows[r]? = some row → (fields rows)[c]? = some column →
        ∃ v, row.toValue.item (.str column) = .ok v ∧ p.params[r * width + c]? = some v) ∧
    (¬ Insertable rows → rows = [] ∨ (∃ i row, FirstOdd (fields rows) rows i row) ∨
      rows ≠ [] ∧ ∀ row ∈ rows, row.columns = []) ∧
    (rows = [] → outcome = .error (.invalidArgument noRows)) ∧
    (∀ i row, FirstOdd (fields rows) rows i row →
      outcome = .error (.invalidArgument (columnsError (fields rows) i row))) ∧
    (rows ≠ [] → (∀ row ∈ rows, row.columns = []) →
      outcome = .error (.invalidArgument (Statement.noColumns (Value.ofItems [])))) ∧
    (Insertable rows → ¬ Held table rows →
      outcome = .error .outOfMemory ∨ outcome = .error .repetitionTooLarge) ∧
    (∀ index v names,
      outcome ≠ .error (.invalidArgument (Binding.missingColumns index v names))) ∧
    ∀ v, outcome ≠ .error (.invalidArgument (Statement.noRowCount v)) := by
  intro outcome width
  have comes : Outcome table rows desk outcome := insert_outcome table cell rows desk
  refine ⟨comes.ok_iff, ?_, cases_of_not_insertable, ?_, ?_, ?_, comes.size_fault,
    comes.ne_missingColumns, comes.ne_noRowCount⟩
  · intro p ok
    rw [ok] at comes
    cases comes with
    | done insertable held built =>
      refine ⟨⟨_, built⟩, length_grid _ _, fun r c row column here under => ?_⟩
      have row_columns := insertable.same_columns row (List.mem_of_getElem? here)
      have there := (row_columns column).2 (List.mem_of_getElem? under)
      exact ⟨row.valueAt column, Row.item_toValue there, getElem?_grid here under⟩
  · intro none_there
    subst none_there
    exact congrArg Prod.fst insert_nil
  · intro i row first_odd
    exact congrArg Prod.fst (insert_of_firstOdd first_odd)
  · intro some_rows none_there
    exact congrArg Prod.fst (insert_of_no_columns some_rows none_there)

end

example :
    let first : Row := ⟨none, [("name", .str "Ann"), ("age", .int 3)], by decide⟩
    let second : Row := ⟨none, [("age", .null), ("name", .str "Bob")], by decide⟩
    (insert (.str "people") (.list none [first.toValue, second.toValue]) default).1 =
      .ok ⟨"INSERT INTO people (name,age) VALUES (?,?),(?,?)",
        [.str "Ann", .int 3, .str "Bob", .null]⟩ := rfl

end Prepared

end SqlAssembly
