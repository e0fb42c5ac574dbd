import SqlAssembly.Proofs.Statement.Call
import SqlAssembly.Proofs.Statement.Ending

/-!
# Counting question marks

A prepared statement has a question mark for each value to bind, and besides
those that stand in names.  Names are written as they are given: the table, the
columns of the criteria and of the new values, the columns to return, and those
to order by with their directions.  The numbers of a window have none.

So the question marks of a statement are as many as its values and those of its
names together (`Preparation.marks_eq`), whatever the names are, and as many as its
values exactly if no name has one.

Joining texts with a separator that has no question mark adds none
(`Clause.marks_intercalate`), and everything else is counted part by part.
-/

namespace SqlAssembly

namespace Clause

/-- The number of question marks in a text. -/
def marks (text : String) : Nat := text.toList.count '?'

/-- The number of question marks in texts, all together. -/
def allMarks (texts : List String) : Nat := (texts.flatMap String.toList).count '?'

@[simp] theorem marks_append (s t : String) : marks (s ++ t) = marks s + marks t := by
  rw [marks, String.toList_append, List.count_append, marks, marks]

@[simp] theorem allMarks_nil : allMarks [] = 0 := rfl

@[simp] theorem allMarks_cons (text : String) (rest : List String) :
    allMarks (text :: rest) = marks text + allMarks rest := by
  rw [allMarks, List.flatMap_cons, List.count_append, marks, allMarks]

@[simp] theorem allMarks_append (first second : List String) :
    allMarks (first ++ second) = allMarks first + allMarks second := by
  rw [allMarks, List.flatMap_append, List.count_append, allMarks, allMarks]

theorem allMarks_replicate (n : Nat) (text : String) :
    allMarks (List.replicate n text) = n * marks text := by
  induction n with
  | zero => rw [List.replicate_zero, allMarks_nil, Nat.zero_mul]
  | succ n ih => rw [List.replicate_succ, allMarks_cons, ih, Nat.succ_mul, Nat.add_comm]

theorem marks_eq_zero_iff {text : String} : marks text = 0 ↔ '?' ∉ text.toList :=
  List.count_eq_zero

theorem allMarks_eq_zero_iff {texts : List String} :
    allMarks texts = 0 ↔ ∀ text ∈ texts, '?' ∉ text.toList := by
  induction texts with
  | nil => simp
  | cons text rest ih => simp [ih, marks_eq_zero_iff]

/-! ## Joined texts -/

theorem marks_intercalate {separator : String} (unmarked : marks separator = 0) :
    ∀ parts : List String, marks (separator.intercalate parts) = allMarks parts
  | [] => rfl
  | [part] => by simp
  | part :: next :: rest => by
      rw [String.intercalate_cons_cons, marks_append, marks_append, unmarked,
        marks_intercalate unmarked (next :: rest), Nat.add_zero, allMarks_cons part]

/-- An empty fragment is left out, and has no question mark. -/
theorem marks_joined (fragments : List String) : marks (joined fragments) = allMarks fragments := by
  rw [joined, marks_intercalate (by decide)]
  induction fragments with
  | nil => rfl
  | cons fragment rest ih =>
    by_cases empty : fragment = ""
    · subst empty
      rw [List.filter_cons_of_neg (by decide), ih, allMarks_cons]
      exact (Nat.zero_add _).symm
    · rw [List.filter_cons_of_pos (by simpa using empty), allMarks_cons, allMarks_cons, ih]

theorem marks_repr (n : Nat) : marks n.repr = 0 :=
  marks_eq_zero_iff.2 (not_mem_repr (by decide) n)

/-! ## Clauses -/

/-- Every column that is set equal to a value adds one to its own. -/
theorem allMarks_bindings (columns : List Value) :
    allMarks (bindings columns) = allMarks (columns.map Value.display) + columns.length := by
  induction columns with
  | nil => rfl
  | cons column rest ih =>
    have here : marks (binding column.display) = marks column.display + 1 := marks_append _ "=?"
    have rest_eq : allMarks (bindings rest) = _ := ih
    rw [bindings, List.map_cons, allMarks_cons, here, List.map_cons, allMarks_cons,
      List.length_cons]
    rw [bindings] at rest_eq
    omega

end Clause

section

/-! ## Names -/

namespace Mapping

/-- The keys as they are written. -/
def columns (m : Mapping) : List String := m.entries.keys.map Value.display

variable [Machine]

theorem marks_condition {m : Mapping} {text : String}
    (stated : Clause.condition m.toValue = .ok text) :
    Clause.marks text = Clause.allMarks m.columns + m.entries.length := by
  rw [condition_toValue] at stated
  obtain ⟨_, rfl⟩ := Value.unlessLimited_eq_ok_iff.1 stated
  obtain ⟨cell, entries⟩ := m
  cases entries with
  | nil => exact (show Clause.marks "WHERE 1" = 0 by decide)
  | cons entry rest =>
    rw [conditionText, if_neg (by simp), Clause.conditionOn, Clause.marks_append,
      Clause.marks_intercalate (by decide), Clause.allMarks_bindings, Entries.length_keys, columns]
    exact Nat.zero_add _

theorem marks_assignments {m : Mapping} {text : String}
    (assigned : Clause.assignments m.toValue = .ok text) :
    Clause.marks text = Clause.allMarks m.columns + m.entries.length := by
  rw [assignments_toValue] at assigned
  obtain ⟨_, rfl⟩ := Value.unlessLimited_eq_ok_iff.1 assigned
  rw [Clause.assignmentsOf, Clause.marks_intercalate (by decide), Clause.allMarks_bindings,
    Entries.length_keys, columns]

end Mapping

namespace Options

variable {o : Options}

/-- The columns to order by, each followed by its direction, as they are written. -/
def orderNames (o : Options) : List String :=
  o.ordered.flatMap fun entry => [entry.1.display, entry.2.display]

/-- The columns to return, as they are written. -/
def selectedNames (o : Options) : List String := o.selected.filterMap Value.text?

theorem marks_projectionText (o : Options) :
    Clause.marks o.projectionText = Clause.allMarks o.selectedNames := by
  rw [projectionText, selectedNames]
  split
  · next none_selected =>
    rw [List.isEmpty_iff.1 none_selected]
    decide
  · exact Clause.marks_intercalate (by decide) _

theorem marks_orderText (o : Options) :
    Clause.marks o.orderText = Clause.allMarks o.orderNames := by
  have ordered (entries : Entries) :
      Clause.allMarks (entries.map fun entry => Clause.orderedColumn entry.1 entry.2) =
        Clause.allMarks (entries.flatMap fun entry => [entry.1.display, entry.2.display]) := by
    induction entries with
    | nil => rfl
    | cons entry rest ih =>
      have space : Clause.marks " " = 0 := by decide
      rw [List.map_cons, Clause.allMarks_cons, ih, List.flatMap_cons, Clause.allMarks_append,
        Clause.orderedColumn, Clause.marks_append, Clause.marks_append, space, Clause.allMarks_cons,
        Clause.allMarks_cons, Clause.allMarks_nil]
      rfl
  rw [orderText, orderNames]
  split
  · next none_ordered =>
    rw [List.isEmpty_iff.1 none_ordered]
    decide
  · rw [Clause.orderingOf, Clause.marks_append, Clause.marks_intercalate (by decide), ordered]
    exact Nat.zero_add _

/-- The numbers of a window are written in digits. -/
theorem allMarks_window (wellMade : o.WellMade) :
    Clause.allMarks (Clause.windowFragments o.limit o.offset) = 0 := by
  have numbered {word : String} (unmarked : Clause.marks word = 0) {v : Value} (count : IsCount v)
      (given : v.kind ≠ .null) : Clause.marks (word ++ v.display) = 0 := by
    obtain ⟨n, _, digits⟩ := count.display_eq given
    rw [Clause.marks_append, digits, Clause.marks_repr, unmarked]
  unfold Clause.windowFragments
  split
  · rfl
  · next limit_given =>
    have limiting := numbered (show Clause.marks "LIMIT " = 0 by decide) wellMade.limit limit_given
    split
    · rw [Clause.allMarks_cons, Clause.limiting, limiting, Clause.allMarks_nil]
    · next offset_given =>
      have skipping := numbered (show Clause.marks "OFFSET " = 0 by decide) wellMade.offset offset_given
      rw [Clause.allMarks_cons, Clause.limiting, limiting, Clause.allMarks_cons, Clause.skipping,
        skipping, Clause.allMarks_nil]

end Options

/-! ## Statements -/

variable [Machine]

/-- So many things are repeated as were asked for. -/
theorem Binding.repetitions_eq_ok {size n m : Nat} (repeated : repetitions size n = .ok m) :
    m = n := by
  unfold repetitions at repeated
  split at repeated
  · cases repeated
  · obtain ⟨_, _, rfl⟩ := map_eq_ok_iff.1 repeated
    exact Int.toNat_natCast n

namespace Statement

variable {g : Guarded} {desk after : Desk} {text : String}

/-- A statement with options that is built is made of its head, its condition and what its record
asks for. -/
theorem Guarded.build_eq_ok (built : g.build desk = (.ok text, after)) :
    ∃ o head condition, g.record? = some o ∧ g.head o = .ok head ∧
      Clause.condition g.criteria = .ok condition ∧
      text = Clause.joined
        (head :: condition :: o.orderText :: Clause.windowFragments o.limit o.offset) := by
  obtain ⟨o, _, taken, built⟩ := Build.bind_eq_ok_iff.1 built
  obtain ⟨head, _, written, built⟩ := Build.bind_eq_ok_iff.1 built
  obtain ⟨condition, _, stated, built⟩ := Build.bind_eq_ok_iff.1 built
  obtain ⟨suffix, _, ended, built⟩ := Build.bind_eq_ok_iff.1 built
  obtain ⟨_, _, _, built⟩ := Build.bind_eq_ok_iff.1 built
  obtain ⟨_, _, _, built⟩ := Build.bind_eq_ok_iff.1 built
  obtain ⟨rfl, _⟩ := Build.pure_eq_ok_iff.1 built
  refine ⟨o, head, condition, (Options.coerce_eq_ok_iff.1 taken).1,
    (Build.lift_eq_ok_iff.1 written).1, (Build.lift_eq_ok_iff.1 stated).1, ?_⟩
  rw [Clause.suffix_eq_ok ended]
  exact Clause.joined_append_joined [head, condition] _

/-- The question marks of a statement with options are those of its head, of its condition and of
the names that it is ordered by. -/
theorem Guarded.marks_build {criteria : Mapping} (given : g.criteria = criteria.toValue)
    (wellMade : ∀ o, g.record? = some o → o.WellMade) (built : g.build desk = (.ok text, after)) :
    ∃ o head, g.record? = some o ∧ g.head o = .ok head ∧
      Clause.marks text = Clause.marks head +
        (Clause.allMarks criteria.columns + criteria.entries.length) +
        Clause.allMarks o.orderNames := by
  obtain ⟨o, head, condition, taken, written, stated, rfl⟩ := g.build_eq_ok built
  refine ⟨o, head, taken, written, ?_⟩
  rw [given] at stated
  rw [Clause.marks_joined, Clause.allMarks_cons, Clause.allMarks_cons, Clause.allMarks_cons,
    Mapping.marks_condition stated, Options.marks_orderText,
    Options.allMarks_window (wellMade o taken)]
  omega

/-- An insert that is built is written with its columns and a group for each row. -/
theorem insert_eq_ok {table fields rowCount : Value}
    (built : insert table fields rowCount desk = (.ok text, after)) :
    ∃ n width columns, insertRows fields rowCount = .ok n ∧ fields.size = .ok width ∧
      fields.join "," = .ok columns ∧
      text = insertText table columns (Binding.group width) n := by
  obtain ⟨n, _, counted, built⟩ := Build.bind_eq_ok_iff.1 built
  obtain ⟨width, _, sized, built⟩ := Build.bind_eq_ok_iff.1 built
  obtain ⟨_, _, _, built⟩ := Build.bind_eq_ok_iff.1 built
  obtain ⟨columns, _, joined, built⟩ := Build.bind_eq_ok_iff.1 built
  obtain ⟨again, _, repeated, built⟩ := Build.bind_eq_ok_iff.1 built
  obtain ⟨_, _, _, built⟩ := Build.bind_eq_ok_iff.1 built
  obtain ⟨_, _, _, built⟩ := Build.bind_eq_ok_iff.1 built
  obtain ⟨rfl, _⟩ := Build.pure_eq_ok_iff.1 built
  obtain rfl := Binding.repetitions_eq_ok (Build.lift_eq_ok_iff.1 repeated).1
  exact ⟨_, width, columns, (Build.checked_eq_ok_iff.1 counted).1,
    (Build.lift_eq_ok_iff.1 sized).1, (Build.lift_eq_ok_iff.1 joined).1, rfl⟩

omit [Machine] in
theorem marks_group (arity : Nat) : Clause.marks (Binding.group arity) = arity := by
  have one : Clause.marks "?" = 1 := by decide
  rw [Binding.group, Clause.marks_append, Clause.marks_append,
    Clause.marks_intercalate (by decide), Clause.allMarks_replicate, one, Nat.mul_one]
  exact Nat.zero_add _

omit [Machine] in
theorem marks_insertText (table : Value) (columns : List String) (rows : Nat) :
    Clause.marks (insertText table (",".intercalate columns) (Binding.group columns.length) rows) =
      columns.length * rows + Clause.marks table.display + Clause.allMarks columns := by
  have groups : Clause.allMarks (List.replicate rows (Binding.group columns.length)) =
      columns.length * rows := by
    rw [Clause.allMarks_replicate, marks_group, Nat.mul_comm]
  have fixed : Clause.marks "INSERT INTO " = 0 ∧ Clause.marks " (" = 0 ∧
      Clause.marks ") VALUES " = 0 := by decide
  have comma : Clause.marks "," = 0 := by decide
  show Clause.marks ("INSERT INTO " ++ table.display ++ " (" ++ ",".intercalate columns ++
    ") VALUES " ++ ",".intercalate (List.replicate rows (Binding.group columns.length))) = _
  simp only [Clause.marks_append, Clause.marks_intercalate comma, groups, fixed]
  omega

end Statement

/-! ## Prepared statements -/

/-- A prepared statement with its arguments: the table is any value and so are the keys of criteria
and of new values; rows to insert are mappings from columns. -/
inductive Preparation
  | count (table : Value) (criteria : Mapping)
  | find (table : Value) (criteria : Mapping) (options : Options.Argument)
  | insert (table : Value) (cell : Cell) (rows : List Row)
  | update (table : Value) (criteria updates : Mapping) (options : Options.Argument)
  | delete (table : Value) (criteria : Mapping) (options : Options.Argument)

/-- The record taken for an argument; a blank one, if it is refused. -/
def Options.Argument.record (argument : Options.Argument) (kind : OptionsKind)
    (statement : String) : Options :=
  (Options.taken? kind statement argument.value).getD (Options.blank kind)

theorem Options.Argument.record_eq {argument : Options.Argument} {kind : OptionsKind}
    {statement : String} {o : Options} (taken : taken? kind statement argument.value = some o) :
    argument.record kind statement = o := by
  rw [record, taken, Option.getD_some]

namespace Preparation

/-- The operation. -/
def prepared : Preparation → Build Prepared
  | .count table criteria => Prepared.count table criteria.toValue
  | .find table criteria options => Prepared.find table criteria.toValue options.value
  | .insert table cell rows => Prepared.insert table (.list cell (rows.map Row.toValue))
  | .update table criteria updates options =>
    Prepared.update table criteria.toValue updates.toValue options.value
  | .delete table criteria options => Prepared.delete table criteria.toValue options.value

/-- The texts that stand in the statement as they are given. -/
def verbatim : Preparation → List String
  | .count table criteria => table.display :: criteria.columns
  | .find table criteria options =>
    let record := options.record .find "find"
    table.display :: criteria.columns ++ record.selectedNames ++ record.orderNames
  | .insert table _ rows => table.display :: Prepared.fields rows
  | .update table criteria updates options =>
    table.display :: updates.columns ++ criteria.columns ++
      (options.record .orderLimit "update").orderNames
  | .delete table criteria options =>
    table.display :: criteria.columns ++ (options.record .orderLimit "delete").orderNames

variable {table : Value} {criteria : Mapping} {desk after : Desk} {text : String} {p : Prepared}

omit [Machine] in
/-- What is prepared is a statement with the values of mappings. -/
theorem parts_eq_ok {work : Build String} {mappings : List Value}
    (built : (do
      let sql ← work
      let params ← liftM (Binding.values mappings)
      return (⟨sql, params⟩ : Prepared)) desk = (.ok p, after)) :
    (∃ middle, work desk = (.ok p.sql, middle)) ∧ Binding.values mappings = .ok p.params := by
  obtain ⟨sql, middle, text, built⟩ := Build.bind_eq_ok_iff.1 built
  obtain ⟨params, _, bound, built⟩ := Build.bind_eq_ok_iff.1 built
  obtain ⟨rfl, _⟩ := Build.pure_eq_ok_iff.1 built
  exact ⟨⟨middle, text⟩, (Build.lift_eq_ok_iff.1 bound).1⟩

theorem marks_count (built : Statement.count table criteria.toValue desk = (.ok text, after)) :
    Clause.marks text =
      criteria.entries.length + Clause.allMarks (verbatim (.count table criteria)) := by
  obtain ⟨_, _, _, built⟩ := Build.bind_eq_ok_iff.1 built
  obtain ⟨condition, _, stated, built⟩ := Build.bind_eq_ok_iff.1 built
  obtain ⟨_, _, _, built⟩ := Build.bind_eq_ok_iff.1 built
  obtain ⟨_, _, _, built⟩ := Build.bind_eq_ok_iff.1 built
  obtain ⟨rfl, _⟩ := Build.pure_eq_ok_iff.1 built
  have start : Clause.marks "SELECT COUNT(*) AS counter FROM " = 0 := by decide +kernel
  have head : Clause.marks (Statement.countHead table) = Clause.marks table.display :=
    (Clause.marks_append _ _).trans (by rw [start, Nat.zero_add])
  rw [Clause.marks_joined, Clause.allMarks_cons, Clause.allMarks_cons, Clause.allMarks_nil,
    Mapping.marks_condition (Build.lift_eq_ok_iff.1 stated).1, head, verbatim,
    Clause.allMarks_cons]
  omega

theorem marks_find {options : Options.Argument}
    (built : Statement.find table criteria.toValue options.value desk = (.ok text, after)) :
    Clause.marks text =
      criteria.entries.length + Clause.allMarks (verbatim (.find table criteria options)) := by
  rw [Statement.find_eq_build] at built
  obtain ⟨o, head, taken, written, counted⟩ := Statement.Guarded.marks_build
    (g := Statement.guardedFind table criteria.toValue options.value) rfl
    (fun _ taken => Options.wellMade_of_taken? taken) built
  obtain ⟨projection, projected, written⟩ := bind_eq_ok_iff.1 written
  obtain ⟨_, _, rfl⟩ := map_eq_ok_iff.1 written
  have wellMade : o.WellMade := Options.wellMade_of_taken? taken
  have fixed : Clause.marks "SELECT " = 0 ∧ Clause.marks " FROM " = 0 := by decide
  have record : options.record .find "find" = o := Options.Argument.record_eq taken
  rw [counted, verbatim, record, Statement.findHead,
    Clause.projection_eq_ok wellMade projected]
  simp only [Clause.marks_append, Options.marks_projectionText, fixed, Clause.allMarks_cons,
    Clause.allMarks_append, List.cons_append]
  omega

theorem marks_update {updates : Mapping} {options : Options.Argument}
    (built : Statement.update table criteria.toValue updates.toValue options.value desk =
      (.ok text, after)) :
    Clause.marks text = updates.entries.length + criteria.entries.length +
      Clause.allMarks (verbatim (.update table criteria updates options)) := by
  have given : updates.toValue.isGiven = true := by
    by_contra not_given
    rw [Statement.update_of_not_given (Bool.not_eq_true _ ▸ not_given)] at built
    cases built
  rw [Statement.update_eq_build given] at built
  obtain ⟨o, head, taken, written, counted⟩ := Statement.Guarded.marks_build
    (g := Statement.guardedUpdate table criteria.toValue updates.toValue options.value) rfl
    (fun _ taken => Options.wellMade_of_taken? taken) built
  obtain ⟨_, _, written⟩ := bind_eq_ok_iff.1 written
  obtain ⟨assignments, assigned, rfl⟩ := map_eq_ok_iff.1 written
  have fixed : Clause.marks "UPDATE " = 0 ∧ Clause.marks " SET " = 0 := by decide
  have record : options.record .orderLimit "update" = o := Options.Argument.record_eq taken
  rw [counted, verbatim, record, Statement.updateHead]
  simp only [Clause.marks_append, Mapping.marks_assignments assigned, fixed, Clause.allMarks_cons,
    Clause.allMarks_append, List.cons_append]
  omega

theorem marks_delete {options : Options.Argument}
    (built : Statement.delete table criteria.toValue options.value desk = (.ok text, after)) :
    Clause.marks text =
      criteria.entries.length + Clause.allMarks (verbatim (.delete table criteria options)) := by
  rw [Statement.delete_eq_build] at built
  obtain ⟨o, head, taken, written, counted⟩ := Statement.Guarded.marks_build
    (g := Statement.guardedDelete table criteria.toValue options.value) rfl
    (fun _ taken => Options.wellMade_of_taken? taken) built
  obtain ⟨_, _, rfl⟩ := map_eq_ok_iff.1 written
  have start : Clause.marks "DELETE FROM " = 0 := by decide
  have record : options.record .orderLimit "delete" = o := Options.Argument.record_eq taken
  rw [counted, verbatim, record, Statement.deleteHead,
    Clause.marks_append, start]
  simp only [Clause.allMarks_cons, Clause.allMarks_append, List.cons_append]
  omega

/-- Rows that are inserted into any table are written as a grid, with the columns of the first. -/
theorem insert_eq_ok {cell : Cell} {rows : List Row}
    (built : Prepared.insert table (.list cell (rows.map Row.toValue)) desk = (.ok p, after)) :
    p.sql = Statement.insertText table (",".intercalate (Prepared.fields rows))
        (Binding.group (Prepared.fields rows).length) rows.length ∧
      p.params = grid (Prepared.fields rows) rows := by
  by_cases insertable : Prepared.Insertable rows
  · rw [Prepared.insert_of_hasColumns insertable.some_rows insertable.same_columns] at built
    obtain ⟨sql, _, statement, built⟩ := Build.bind_eq_ok_iff.1 built
    obtain ⟨_, _, _, built⟩ := Build.bind_eq_ok_iff.1 built
    obtain ⟨rfl, _⟩ := Build.pure_eq_ok_iff.1 built
    obtain ⟨n, width, columns, counted, sized, joined, text⟩ := Statement.insert_eq_ok statement
    rw [Prepared.insertRows_eq_ok insertable.some_columns
      (mt List.length_eq_zero_iff.1 insertable.some_rows)] at counted
    cases counted
    cases (Prepared.size_columns _).symm.trans sized
    cases (Prepared.join_columns _).symm.trans joined
    exact ⟨text, rfl⟩
  · rcases Prepared.cases_of_not_insertable insertable with none_there | ⟨i, row, first_odd⟩ |
      ⟨some_rows, none_there⟩
    · rw [none_there, List.map_nil, Prepared.insert_nil] at built
      cases built
    · rw [Prepared.insert_of_firstOdd first_odd] at built
      cases built
    · rw [Prepared.insert_of_no_columns some_rows none_there] at built
      cases built

theorem marks_insert {cell : Cell} {rows : List Row}
    (built : Prepared.insert table (.list cell (rows.map Row.toValue)) desk = (.ok p, after)) :
    Clause.marks p.sql =
      p.params.length + Clause.allMarks (table.display :: Prepared.fields rows) := by
  obtain ⟨text, bound⟩ := insert_eq_ok built
  rw [text, Statement.marks_insertText, bound, length_grid, Clause.allMarks_cons]
  omega

/-- The question marks of a prepared statement are as many as its values to bind and those of the
texts that stand in it as they are given, together.  So they are as many as its values exactly if
none of those texts has one. -/
theorem marks_eq (c : Preparation) (built : c.prepared desk = (.ok p, after)) :
    Clause.marks p.sql = p.params.length + Clause.allMarks c.verbatim ∧
      (Clause.marks p.sql = p.params.length ↔ ∀ text ∈ c.verbatim, '?' ∉ text.toList) := by
  have counted : Clause.marks p.sql = p.params.length + Clause.allMarks c.verbatim := by
    cases c with
    | count table criteria =>
      obtain ⟨⟨_, text⟩, bound⟩ := parts_eq_ok built
      rw [marks_count text, ← Except.ok.inj ((Binding.values_mapping _ _).symm.trans bound),
        Entries.length_values]
    | find table criteria options =>
      obtain ⟨⟨_, text⟩, bound⟩ := parts_eq_ok built
      rw [marks_find text, ← Except.ok.inj ((Binding.values_mapping _ _).symm.trans bound),
        Entries.length_values]
    | insert table cell rows => exact marks_insert built
    | update table criteria updates options =>
      obtain ⟨⟨_, text⟩, bound⟩ := parts_eq_ok built
      rw [marks_update text,
        ← Except.ok.inj ((Request.values_mappings updates criteria).symm.trans bound),
        List.length_append, Entries.length_values, Entries.length_values]
    | delete table criteria options =>
      obtain ⟨⟨_, text⟩, bound⟩ := parts_eq_ok built
      rw [marks_delete text, ← Except.ok.inj ((Binding.values_mapping _ _).symm.trans bound),
        Entries.length_values]
  refine ⟨counted, ?_⟩
  rw [counted, ← Clause.allMarks_eq_zero_iff]
  exact Nat.add_eq_left

end Preparation

end

namespace Preparation

/-- New values under an integer, for rows that meet criteria on nothing and on a column with a
question mark. -/
def oddUpdate : Preparation :=
  .update (.str "people?") ⟨none, [(.null, .int 1), (.str "name?", .str "Ann?")]⟩
    ⟨none, [(.int 3, .str "?")]⟩
    ⟨Value.ofEntries [(.str "limit", .int 2),
      (.str "sort", Value.ofEntries [(.str "age", .direction .desc)])], fun _ record => by
        cases record⟩

theorem marks_eq_oddUpdate :
    ∃ p after, oddUpdate.prepared default = (.ok p, after) ∧
      p.sql = "UPDATE people? SET 3=? WHERE None=? AND name?=? ORDER BY age DESC LIMIT 2" ∧
      p.params = [.str "?", .int 1, .str "Ann?"] ∧
      oddUpdate.verbatim = ["people?", "3", "None", "name?", "age", "DESC"] ∧
      Clause.marks p.sql = 3 + 2 ∧ ¬ ∀ text ∈ oddUpdate.verbatim, '?' ∉ text.toList := by
  have built : oddUpdate.prepared default = (.ok _, _) := rfl
  obtain ⟨counted, exactly⟩ := marks_eq oddUpdate built
  refine ⟨_, _, built, rfl, rfl, rfl, counted, ?_⟩
  rw [← exactly, counted]
  decide

end Preparation

end SqlAssembly
