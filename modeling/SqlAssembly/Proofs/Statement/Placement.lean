import SqlAssembly.Proofs.Statement.Call

/-!
# Question marks and the values bound to them

The text of a statement and the values to bind come about separately.  Here they
are brought together: if no name in the text has a question mark of its own,
then the text has as many question marks as there are values to bind, and each
one stands right after the column that its value is stored under
(`Call.params_follow_marks`).

A text is *placed* over some columns if its question marks come right after
them, in their order (`Placed`).  Texts placed over some columns each make one
placed over all of them, so that a statement is placed over the columns of its
fragments, one after the other.
-/

namespace SqlAssembly

/-- What stands before a question mark ends with a column and an equals sign, after a space or a
comma. -/
def Names (column : String) (before : List Char) : Prop :=
  ' ' :: column.toList ++ ['='] <:+ before ∨ ',' :: column.toList ++ ['='] <:+ before

/-- A text with a question mark right after each of some columns, in their order, and with no
other one. -/
inductive Placed : List String → List Char → Prop
  /-- Over no columns there is no question mark. -/
  | rest {text : List Char} (unmarked : '?' ∉ text) : Placed [] text
  /-- The first question mark comes right after the first column. -/
  | mark {column : String} {columns : List String} {before after : List Char}
      (unmarked : '?' ∉ before) (named : Names column before) (more : Placed columns after) :
      Placed (column :: columns) (before ++ '?' :: after)

theorem Names.append_left {column : String} {before : List Char} (named : Names column before)
    (text : List Char) : Names column (text ++ before) := by
  rcases named with space | comma
  · exact Or.inl (space.trans (List.suffix_append text before))
  · exact Or.inr (comma.trans (List.suffix_append text before))

namespace Placed

variable {columns others : List String} {text more : List Char}

theorem append_left (unmarked : '?' ∉ text) (placed : Placed columns more) :
    Placed columns (text ++ more) := by
  cases placed with
  | rest still_unmarked =>
    apply rest
    rw [List.mem_append, not_or]
    exact ⟨unmarked, still_unmarked⟩
  | mark still_unmarked named later =>
    rw [← List.append_assoc]
    refine mark ?_ (named.append_left text) later
    rw [List.mem_append, not_or]
    exact ⟨unmarked, still_unmarked⟩

theorem append (first : Placed columns text) (second : Placed others more) :
    Placed (columns ++ others) (text ++ more) := by
  induction first with
  | rest unmarked => exact second.append_left unmarked
  | mark unmarked named _ ih =>
    rw [List.append_assoc, List.cons_append]
    exact mark unmarked named ih

/-- There are as many question marks as columns. -/
theorem count_eq (placed : Placed columns text) : text.count '?' = columns.length := by
  induction placed with
  | rest unmarked => exact List.count_eq_zero_of_not_mem unmarked
  | mark unmarked _ _ ih =>
    rw [List.count_append, List.count_eq_zero_of_not_mem unmarked, List.count_cons_self, ih,
      Nat.zero_add, List.length_cons]

/-- Every question mark comes right after the column whose turn it is. -/
theorem names_before (placed : Placed columns text) {before after : List Char}
    (here : text = before ++ '?' :: after) :
    ∃ column, columns[before.count '?']? = some column ∧ Names column before := by
  induction placed generalizing before with
  | rest unmarked => exact absurd (by simp [here]) unmarked
  | @mark column columns start later unmarked named _ ih =>
    rw [List.append_eq_append_iff] at here
    rcases here with ⟨between, rfl, beyond⟩ | ⟨between, rfl, beyond⟩
    · -- The first question mark comes first, or is this one.
      cases between with
      | nil =>
        rw [List.append_nil]
        exact ⟨column, by rw [List.count_eq_zero_of_not_mem unmarked]; rfl, named⟩
      | cons c between =>
        obtain ⟨rfl, rfl⟩ := List.cons.inj beyond
        obtain ⟨found, at_turn, named⟩ := ih rfl
        refine ⟨found, ?_, ?_⟩
        · rw [List.count_append, List.count_eq_zero_of_not_mem unmarked, List.count_cons_self,
            Nat.zero_add, List.getElem?_cons_succ]
          exact at_turn
        · rw [List.append_cons]
          exact named.append_left _
    · -- None can come before the first one.
      cases between with
      | nil =>
        rw [List.append_nil] at unmarked named
        exact ⟨column, by rw [List.count_eq_zero_of_not_mem unmarked]; rfl, named⟩
      | cons c between =>
        obtain ⟨rfl, _⟩ := List.cons.inj beyond
        exact absurd (by simp) unmarked

end Placed

/-! ## Fragments with question marks -/

/-- A text after which a column may be named: it has no question mark, and a space or a comma ends
it. -/
structure Opening (text : String) : Prop where
  /-- It has no question mark. -/
  unmarked : '?' ∉ text.toList
  /-- A space or a comma ends it. -/
  ends : text.toList.getLast? = some ' ' ∨ text.toList.getLast? = some ','

theorem Opening.names {text : String} (opening : Opening text) (column : String) :
    Names column (text.toList ++ column.toList ++ ['=']) := by
  rcases opening.ends with space | comma
  · obtain ⟨start, eq⟩ := List.getLast?_eq_some_iff.1 space
    exact Or.inl ⟨start, by simp [eq]⟩
  · obtain ⟨start, eq⟩ := List.getLast?_eq_some_iff.1 comma
    exact Or.inr ⟨start, by simp [eq]⟩

/-- Columns set equal to values to be bound, after an opening and with openings between them. -/
theorem placed_bindings {separator : String} (between : Opening separator) :
    ∀ {columns : List String}, (∀ column ∈ columns, '?' ∉ column.toList) →
      ∀ {start : String}, Opening start →
        Placed columns (start ++ separator.intercalate (columns.map Clause.binding)).toList
  | [], _, start, opening => by
      have unmarked := opening.unmarked
      exact .rest (by simpa using unmarked)
  | [column], unmarked, start, opening => by
      have before : '?' ∉ start.toList ++ column.toList ++ ['='] := by
        simp [opening.unmarked, unmarked column List.mem_cons_self]
      have placed := Placed.mark before (opening.names column) (.rest List.not_mem_nil)
      simpa [Clause.binding] using placed
  | column :: next :: rest, unmarked, start, opening => by
      have before : '?' ∉ start.toList ++ column.toList ++ ['='] := by
        simp [opening.unmarked, unmarked column List.mem_cons_self]
      have later : ∀ other ∈ next :: rest, '?' ∉ other.toList := fun other among =>
        unmarked other (List.mem_cons_of_mem _ among)
      have placed := Placed.mark before (opening.names column)
        (placed_bindings between later between)
      simpa [Clause.binding] using placed

theorem opening_and : Opening " AND " := ⟨by decide, by decide⟩

theorem opening_comma : Opening "," := ⟨by decide, by decide⟩

/-- The condition of a statement, after a space, is placed over the columns of the criteria. -/
theorem placed_condition {columns : List String}
    (unmarked : ∀ column ∈ columns, '?' ∉ column.toList) :
    Placed columns (Clause.conditionText columns).toList := by
  unfold Clause.conditionText
  split
  · next no_columns =>
    rw [List.isEmpty_iff.1 no_columns]
    exact .rest (by decide)
  · exact placed_bindings opening_and unmarked ⟨by decide, by decide⟩

/-! ## Fragments without question marks -/

theorem unmarked_projectionText {o : Options}
    (unmarked : ∀ name ∈ o.names, '?' ∉ name.toList) : '?' ∉ o.projectionText.toList := by
  unfold Options.projectionText
  split
  · decide
  · apply Clause.not_mem_intercalate (by decide)
    intro name among
    exact unmarked name (List.mem_append_left _ among)

theorem unmarked_orderText {o : Options}
    (unmarked : ∀ name ∈ o.names, '?' ∉ name.toList) : '?' ∉ o.orderText.toList := by
  unfold Options.orderText
  split
  · decide
  · apply Clause.not_mem_append (by decide)
    apply Clause.not_mem_intercalate (by decide)
    intro text among
    obtain ⟨entry, member, rfl⟩ := List.mem_map.1 among
    have named (name : String) (part : name ∈ [entry.1.display, entry.2.display]) :
        name ∈ o.names :=
      List.mem_append_right _ (List.mem_flatMap.2 ⟨entry, member, part⟩)
    simp [Clause.orderedColumn, unmarked _ (named entry.1.display (by simp)),
      unmarked _ (named entry.2.display (by simp))]

theorem unmarked_window {limit offset : Value} (limit_count : Options.IsCount limit)
    (offset_count : Options.IsCount offset) :
    ∀ fragment ∈ Clause.windowFragments limit offset, '?' ∉ fragment.toList := by
  unfold Clause.windowFragments
  split
  · simp
  · next limit_given =>
    obtain ⟨_, _, limit_text⟩ := limit_count.display_eq limit_given
    have limiting : '?' ∉ (Clause.limiting limit).toList := by
      rw [Clause.limiting, limit_text]
      exact Clause.not_mem_append (by decide) (Clause.not_mem_repr (by decide) _)
    split
    · simpa using limiting
    · next offset_given =>
      obtain ⟨_, _, offset_text⟩ := offset_count.display_eq offset_given
      have skipping : '?' ∉ (Clause.skipping offset).toList := by
        rw [Clause.skipping, offset_text]
        exact Clause.not_mem_append (by decide) (Clause.not_mem_repr (by decide) _)
      simpa using ⟨limiting, skipping⟩

/-! ## Statements -/

namespace Call

variable {call : Call}

variable [Machine]

/-- The head of a statement is placed over the columns that get new values. -/
theorem placed_head (unmarked : ∀ name ∈ call.names, '?' ∉ name.toList) :
    Placed call.updates.columns call.head.toList := by
  cases call with
  | count table criteria =>
    have table_unmarked : '?' ∉ table.display.toList := unmarked _ List.mem_cons_self
    apply Placed.rest
    show '?' ∉ ("SELECT COUNT(*) AS counter FROM " ++ table.display).toList
    exact Clause.not_mem_append (by decide) table_unmarked
  | find table criteria options =>
    have table_unmarked : '?' ∉ table.display.toList := unmarked _ List.mem_cons_self
    have projection_unmarked := unmarked_projectionText fun name among =>
      unmarked name (List.mem_cons_of_mem _ (List.mem_append_right _ among))
    apply Placed.rest
    have selecting :
        '?' ∉ ("SELECT " ++ (Call.find table criteria options).record.projectionText).toList :=
      Clause.not_mem_append (by decide) projection_unmarked
    exact Clause.not_mem_append (Clause.not_mem_append selecting (by decide)) table_unmarked
  | update table criteria updates options =>
    have table_unmarked : '?' ∉ table.display.toList := unmarked _ List.mem_cons_self
    have opening : Opening ("UPDATE " ++ table.display ++ " SET ") := by
      constructor
      · exact Clause.not_mem_append (Clause.not_mem_append (by decide) table_unmarked) (by decide)
      · left
        rw [String.toList_append, List.getLast?_append]
        rfl
    exact placed_bindings opening_comma (fun column among => unmarked column
      (List.mem_cons_of_mem _ (List.mem_append_left _ (List.mem_append_left _ among)))) opening
  | delete table criteria options =>
    have table_unmarked : '?' ∉ table.display.toList := unmarked _ List.mem_cons_self
    apply Placed.rest
    exact Clause.not_mem_append (by decide) table_unmarked

theorem unmarked_ending (unmarked : ∀ name ∈ call.names, '?' ∉ name.toList) :
    '?' ∉ (Clause.joined call.ending).toList := by
  apply Clause.not_mem_joined (by decide)
  intro fragment among
  rcases List.mem_cons.1 among with rfl | in_window
  · exact unmarked_orderText fun name among =>
      unmarked name (List.mem_cons_of_mem _ (List.mem_append_right _ among))
  · exact unmarked_window call.wellMade_record.limit call.wellMade_record.offset fragment in_window

/-- The columns of a statement in the order of its question marks, each with the row it is of. -/
def sources (call : Call) : List (String × Row) :=
  call.updates.columns.map (·, call.updates) ++ call.criteria.columns.map (·, call.criteria)

omit [Machine] in
/-- At the turn of a column, the row that it is of has the value to bind under it. -/
theorem source_of_turn {i : Nat} {column : String}
    (turn : (call.updates.columns ++ call.criteria.columns)[i]? = some column) :
    ∃ row v, call.sources[i]? = some (column, row) ∧ row.toValue.item (.str column) = .ok v ∧
      (call.updates.values ++ call.criteria.values)[i]? = some v := by
  by_cases within : i < call.updates.columns.length
  · rw [List.getElem?_append_left within] at turn
    obtain ⟨v, bound, stored⟩ := Row.item_toValue_of_getElem? turn
    refine ⟨call.updates, v, ?_, stored, ?_⟩
    · rw [sources, List.getElem?_append_left (by simpa using within), List.getElem?_map, turn,
        Option.map_some]
    · rw [List.getElem?_append_left (by simpa using within), bound]
  · have beyond : call.updates.columns.length ≤ i := Nat.le_of_not_lt within
    rw [List.getElem?_append_right beyond] at turn
    obtain ⟨v, bound, stored⟩ := Row.item_toValue_of_getElem? turn
    refine ⟨call.criteria, v, ?_, stored, ?_⟩
    · rw [sources, List.getElem?_append_right (by simpa using beyond), List.length_map,
        List.getElem?_map, turn, Option.map_some]
    · rw [List.getElem?_append_right (by simpa using beyond), Row.length_values, bound]

/-- A prepared statement has a question mark for each value to bind.  Each one stands right after a
column, and its value is the one that the row of the column has under it.  The question marks of
the new values come before the condition, and those of the criteria in it. -/
theorem params_follow_marks (call : Call) (unmarked : ∀ name ∈ call.names, '?' ∉ name.toList)
    {desk after : Desk} {p : Prepared} (built : call.prepared desk = (.ok p, after)) :
    p.sql.toList.count '?' = p.params.length ∧
    (∀ before rest, p.sql.toList = before ++ '?' :: rest →
      ∃ column row v, call.sources[before.count '?']? = some (column, row) ∧
        Names column before ∧ row.toValue.item (.str column) = .ok v ∧
        p.params[before.count '?']? = some v) ∧
    ∃ head condition ending, p.sql = head ++ " " ++ condition ++ ending ∧
      Clause.condition call.criteria.toValue = .ok condition ∧
      head.toList.count '?' = call.updates.columns.length ∧
      condition.toList.count '?' = call.criteria.columns.length ∧
      ending.toList.count '?' = 0 := by
  obtain ⟨⟨_, sql_built⟩, params⟩ := prepared_eq_ok built
  have text := (sql_eq_ok sql_built).trans call.joined_fragments_eq
  have in_head := placed_head unmarked
  have in_condition : Placed call.criteria.columns call.condition.toList :=
    placed_condition fun column among => unmarked column
      (List.mem_cons_of_mem _ (List.mem_append_left _ (List.mem_append_right _ among)))
  generalize in_ending : (if Clause.joined call.ending = "" then ""
    else " " ++ Clause.joined call.ending) = ending at text
  have ending_unmarked : '?' ∉ ending.toList := by
    rw [← in_ending]
    split
    · decide
    · exact Clause.not_mem_append (by decide) (unmarked_ending unmarked)
  have placed : Placed (call.updates.columns ++ call.criteria.columns) p.sql.toList := by
    have space : '?' ∉ [' '] := by decide
    have all := in_head.append ((in_condition.append (.rest ending_unmarked)).append_left space)
    rw [List.append_nil] at all
    simpa [text] using all
  refine ⟨?_, ?_, call.head, call.condition, ending, text, Clause.condition_toValue _,
    in_head.count_eq, in_condition.count_eq, List.count_eq_zero_of_not_mem ending_unmarked⟩
  · rw [placed.count_eq, params, List.length_append, List.length_append, Row.length_values,
      Row.length_values]
  · intro before rest here
    obtain ⟨column, turn, named⟩ := placed.names_before here
    obtain ⟨row, v, source, stored, bound⟩ := source_of_turn turn
    exact ⟨column, row, v, source, named, stored, by rw [params, bound]⟩

end Call

namespace Call

/-- An update that asks for a column that it changes. -/
def correction : Call :=
  .update (.str "people") ⟨none, [("name", .str "Ann")], by decide⟩
    ⟨none, [("seen", .null), ("name", .str "Anna")], by decide⟩
    ⟨Value.ofEntries [(.str "limit", .int 0),
      (.str "sort", Value.ofEntries [(.str "name", .direction .desc)])], fun _ record => by
        cases record⟩

theorem params_follow_marks_correction :
    (∀ name ∈ correction.names, '?' ∉ name.toList) ∧
    ∃ p after, correction.prepared default = (.ok p, after) ∧
      p.sql = "UPDATE people SET seen=?,name=? WHERE name=? ORDER BY name DESC LIMIT 0" ∧
      p.params = [.null, .str "Anna", .str "Ann"] ∧ p.sql.toList.count '?' = p.params.length :=
  ⟨by decide, _, _, rfl, rfl, rfl,
    (params_follow_marks correction (by decide)
      (show correction.prepared default = (.ok _, _) from rfl)).1⟩

end Call

end SqlAssembly
