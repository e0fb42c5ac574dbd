import SqlAssembly.Proofs.Clause.Joining
import SqlAssembly.Proofs.Options.Taken
import SqlAssembly.Proofs.Row

/-!
# Calls and their fragments

A *call* is a count, a find, an update or a delete with its arguments: criteria
and new values are rows, and the options are any argument.  `Call.sql` builds
its statement and `Call.prepared` prepares it.

The text of a call that succeeds is made of *fragments*, without a look at the
desk: the head, the condition, the ordering and the window (`Call.sql_eq_ok`).
They are written from the arguments and from the record that was taken for the
options (`Call.record`).  All of them are joined at once here, whereas the
operation joins the last ones first.  The values to bind are the new ones and
then those of the criteria (`Call.prepared_eq_ok`).
-/

namespace SqlAssembly

/-! ## What a record asks for -/

namespace Options

/-- The columns to order by, each with the token of its direction. -/
def ordered (o : Options) : Entries :=
  match o.sort with
  | .mapping _ entries => entries.map fun entry => (entry.1, Clause.directionToken entry.2)
  | _ => []

/-- The columns to return; all of them if none are there. -/
def selected (o : Options) : List Value :=
  match o.projections with
  | .list _ items => items
  | _ => []

/-- The text of the ordering. -/
def orderText (o : Options) : String :=
  if o.ordered.isEmpty then ""
  else Clause.orderingOf (o.ordered.map fun entry => Clause.orderedColumn entry.1 entry.2)

/-- The text of the projection. -/
def projectionText (o : Options) : String :=
  if o.selected.isEmpty then "*" else ",".intercalate (o.selected.filterMap Value.text?)

/-- The names in the text: the columns to return, and those to order by with their directions. -/
def names (o : Options) : List String :=
  o.selected.filterMap Value.text? ++
    o.ordered.flatMap fun entry => [entry.1.display, entry.2.display]

end Options

/-! ## Fragments -/

namespace Clause

/-- The text of the condition on some columns. -/
def conditionText (columns : List String) : String :=
  if columns.isEmpty then "WHERE 1" else "WHERE " ++ " AND ".intercalate (columns.map binding)

/-- The text of the new values of some columns. -/
def assignmentsText (columns : List String) : String := ",".intercalate (columns.map binding)

theorem bindings_map_str (columns : List String) :
    bindings (columns.map .str) = columns.map binding := by
  simp [bindings]

variable [Machine]

theorem columns_toValue (row : Row) : columns row.toValue = .ok (row.columns.map .str) := by
  rw [columns, Row.items_toValue]
  exact Value.writable_map_str row.columns

theorem condition_toValue (row : Row) :
    condition row.toValue = .ok (conditionText row.columns) := by
  rw [condition, conditionText, Row.isGiven_toValue, columns_toValue]
  cases row.columns with
  | nil => rfl
  | cons column rest =>
    show Except.ok (conditionOn ((column :: rest).map .str)) = _
    rw [conditionOn, bindings_map_str]
    rfl

theorem assignments_toValue (row : Row) :
    assignments row.toValue = .ok (assignmentsText row.columns) := by
  rw [assignments, columns_toValue, assignmentsText]
  simp only [Except.map, assignmentsOf, bindings_map_str]

/-- Directions that are not refused are written in the order of their columns, strict or not. -/
theorem orderedColumns_eq_ok {strict : Bool} {entries : Entries} {columns : List String}
    (accepted : orderedColumns strict entries = .ok columns) :
    columns = entries.map fun entry => orderedColumn entry.1 (directionToken entry.2) := by
  induction entries generalizing columns with
  | nil =>
    cases accepted
    rfl
  | cons entry rest ih =>
    cases written : entryLimit? entry with
    | some limit =>
      rw [orderedColumns_of_limit strict written] at accepted
      cases accepted
    | none =>
      simp only [orderedColumns_of_written strict written] at accepted
      split at accepted
      · cases accepted
      · obtain ⟨others, more, rfl⟩ := map_eq_ok_iff.1 accepted
        rw [ih more, List.map_cons]

/-- An ordering that is not refused is written as its record asks for it. -/
theorem ordering_eq_ok {o : Options} {desk after : Desk} {text : String}
    (built : ordering o.sort desk = (.ok text, after)) : text = o.orderText := by
  unfold ordering at built
  split at built
  · next given =>
    obtain ⟨strict, middle, _, built⟩ := Build.bind_eq_ok_iff.1 built
    obtain ⟨entries, later, isMapping, built⟩ := Build.bind_eq_ok_iff.1 built
    obtain ⟨isMapping, rfl⟩ := Build.lift_eq_ok_iff.1 isMapping
    cases sort : o.sort with
    | mapping cell members =>
      rw [sort] at isMapping given
      cases isMapping
      obtain ⟨columns, _, accepted, built⟩ := Build.bind_eq_ok_iff.1 built
      obtain ⟨rfl, _⟩ := Build.pure_eq_ok_iff.1 built
      have written := orderedColumns_eq_ok (Build.checked_eq_ok_iff.1 accepted).1
      have some_entries : entries ≠ [] := by simpa using given
      simp [Options.orderText, Options.ordered, sort, written, some_entries, Function.comp_def]
    | _ =>
      rw [sort] at isMapping
      cases isMapping
  · next not_given =>
    obtain ⟨rfl, _⟩ := Build.pure_eq_ok_iff.1 built
    cases sort : o.sort with
    | mapping cell members =>
      have no_entries : members = [] := by simpa [sort] using not_given
      simp [Options.orderText, Options.ordered, sort, no_entries]
    | _ => simp [Options.orderText, Options.ordered, sort]

/-- The end of a statement is its ordering and its window, joined. -/
theorem suffix_eq_ok {o : Options} {desk after : Desk} {text : String}
    (built : suffix o.sort o.limit o.offset desk = (.ok text, after)) :
    text = joined (o.orderText :: windowFragments o.limit o.offset) := by
  obtain ⟨order, middle, ordered, built⟩ := Build.bind_eq_ok_iff.1 built
  have last : text = joined (order :: windowFragments o.limit o.offset) := by
    split at built
    · obtain ⟨_, _, _, built⟩ := Build.bind_eq_ok_iff.1 built
      obtain ⟨_, _, _, built⟩ := Build.bind_eq_ok_iff.1 built
      exact (Build.pure_eq_ok_iff.1 built).1.symm
    · obtain ⟨_, _, _, built⟩ := Build.bind_eq_ok_iff.1 built
      exact (Build.pure_eq_ok_iff.1 built).1.symm
  rw [last, ordering_eq_ok ordered]

omit [Machine] in
/-- A projection that is not refused is written as its record asks for it. -/
theorem projection_eq_ok {o : Options} (wellMade : o.WellMade) {text : String}
    (built : projection o.projections = .ok text) : text = o.projectionText := by
  unfold projection at built
  rcases wellMade.projections with none_given | ⟨_, cell, items, list⟩
  · rw [none_given] at built
    cases built
    simp [Options.projectionText, Options.selected, none_given]
  · rw [list] at built
    cases items with
    | nil =>
      cases built
      simp [Options.projectionText, Options.selected, list]
    | cons item rest =>
      have joined : Value.joinItems "," (item :: rest) = .ok text := built
      rw [Value.joinItems_eq_ok joined]
      simp [Options.projectionText, Options.selected, list]

end Clause

/-! ## Calls -/

/-- What a statement does. -/
inductive Verb
  | count
  | find
  | update
  | delete
  deriving DecidableEq, Repr

/-- A statement with a condition on rows, with its arguments. -/
inductive Call
  /-- The number of rows. -/
  | count (table : Value) (criteria : Row)
  /-- The rows. -/
  | find (table : Value) (criteria : Row) (options : Options.Argument)
  /-- New values for the rows. -/
  | update (table : Value) (criteria updates : Row) (options : Options.Argument)
  /-- No more rows. -/
  | delete (table : Value) (criteria : Row) (options : Options.Argument)

namespace Call

/-- What a call does. -/
def verb : Call → Verb
  | .count .. => .count
  | .find .. => .find
  | .update .. => .update
  | .delete .. => .delete

/-- The table. -/
def table : Call → Value
  | .count table _ => table
  | .find table _ _ => table
  | .update table _ _ _ => table
  | .delete table _ _ => table

/-- The criteria. -/
def criteria : Call → Row
  | .count _ criteria => criteria
  | .find _ criteria _ => criteria
  | .update _ criteria _ _ => criteria
  | .delete _ criteria _ => criteria

/-- The new values; there are none unless the call is an update. -/
def updates : Call → Row
  | .update _ _ updates _ => updates
  | _ => Row.empty

variable [Machine]

/-- The record taken for the options, if they are not refused; a count has a blank one. -/
def record? : Call → Option Options
  | .count _ _ => some (Options.blank .orderLimit)
  | .find _ _ options => Options.taken? .find "find" options.value
  | .update _ _ _ options => Options.taken? .orderLimit "update" options.value
  | .delete _ _ options => Options.taken? .orderLimit "delete" options.value

/-- The record taken for the options; a blank one, if they are refused. -/
def record (call : Call) : Options := call.record?.getD (Options.blank .orderLimit)

/-- The operation that builds the statement. -/
def sql : Call → Build String
  | .count table criteria => Statement.count table criteria.toValue
  | .find table criteria options => Statement.find table criteria.toValue options.value
  | .update table criteria updates options =>
    Statement.update table criteria.toValue updates.toValue options.value
  | .delete table criteria options => Statement.delete table criteria.toValue options.value

/-- The operation that prepares the statement. -/
def prepared : Call → Build Prepared
  | .count table criteria => Prepared.count table criteria.toValue
  | .find table criteria options => Prepared.find table criteria.toValue options.value
  | .update table criteria updates options =>
    Prepared.update table criteria.toValue updates.toValue options.value
  | .delete table criteria options => Prepared.delete table criteria.toValue options.value

/-- The names in the text of the statement. -/
def names (call : Call) : List String :=
  call.table.display :: (call.updates.columns ++ call.criteria.columns ++ call.record.names)

theorem record_of_record? {call : Call} {o : Options} (taken : call.record? = some o) :
    call.record = o := by
  rw [record, taken, Option.getD_some]

theorem wellMade_record (call : Call) : call.record.WellMade := by
  cases taken : call.record? with
  | none =>
    rw [record, taken]
    exact Options.wellMade_blank _
  | some o =>
    rw [record_of_record? taken]
    cases call with
    | count table criteria =>
      cases taken
      exact Options.wellMade_blank _
    | find table criteria options => exact Options.wellMade_of_taken? taken
    | update table criteria updates options => exact Options.wellMade_of_taken? taken
    | delete table criteria options => exact Options.wellMade_of_taken? taken

/-! ## The text of a call -/

/-- The head of the statement. -/
def head (call : Call) : String :=
  match call with
  | .count table _ => Statement.countHead table
  | .find table _ _ => Statement.findHead call.record.projectionText table
  | .update table _ updates _ =>
    Statement.updateHead table (Clause.assignmentsText updates.columns)
  | .delete table _ _ => Statement.deleteHead table

/-- The condition of the statement. -/
def condition (call : Call) : String := Clause.conditionText call.criteria.columns

/-- The fragments of the end of the statement: the ordering and the window. -/
def ending (call : Call) : List String :=
  call.record.orderText :: Clause.windowFragments call.record.limit call.record.offset

/-- The fragments of the statement. -/
def fragments (call : Call) : List String := call.head :: call.condition :: call.ending

theorem head_ne_empty (call : Call) : call.head ≠ "" := by
  intro empty
  cases call with
  | count table criteria =>
    exact absurd (String.append_eq_empty_iff.1 empty).1 (by decide)
  | find table criteria options =>
    have start := (String.append_eq_empty_iff.1 (String.append_eq_empty_iff.1 empty).1).1
    exact absurd (String.append_eq_empty_iff.1 start).1 (by decide)
  | update table criteria updates options =>
    have start := (String.append_eq_empty_iff.1 (String.append_eq_empty_iff.1 empty).1).1
    exact absurd (String.append_eq_empty_iff.1 start).1 (by decide)
  | delete table criteria options =>
    exact absurd (String.append_eq_empty_iff.1 empty).1 (by decide)

omit [Machine] in
theorem condition_ne_empty (call : Call) : call.condition ≠ "" := by
  unfold condition Clause.conditionText
  split
  · decide
  · intro empty
    exact absurd (String.append_eq_empty_iff.1 empty).1 (by decide)

/-- A statement is its head and its condition, and then its end, if that is not empty. -/
theorem joined_fragments_eq (call : Call) :
    Clause.joined call.fragments = call.head ++ " " ++ call.condition ++
      (if Clause.joined call.ending = "" then "" else " " ++ Clause.joined call.ending) := by
  rw [fragments, Clause.joined_cons_of_ne_empty call.head_ne_empty,
    Clause.joined_cons_of_ne_empty call.condition_ne_empty]
  by_cases no_ending : Clause.joined call.ending = ""
  · rw [if_pos no_ending, if_pos no_ending, if_neg call.condition_ne_empty, String.append_empty]
  · have not_empty : call.condition ++ " " ++ Clause.joined call.ending ≠ "" := by
      simp [String.append_eq_empty_iff, no_ending]
    rw [if_neg no_ending, if_neg no_ending, if_neg not_empty]
    simp only [String.append_assoc]

/-- A statement whose end was joined before is made of all its fragments. -/
theorem joined_fragments (call : Call) :
    Clause.joined [call.head, call.condition, Clause.joined call.ending] =
      Clause.joined call.fragments :=
  Clause.joined_append_joined [call.head, call.condition] _

/-- The text of a call that succeeds is made of its fragments. -/
theorem sql_eq_ok {call : Call} {desk after : Desk} {text : String}
    (built : call.sql desk = (.ok text, after)) : text = Clause.joined call.fragments := by
  rw [← joined_fragments]
  cases call with
  | count table criteria =>
    obtain ⟨_, _, _, built⟩ := Build.bind_eq_ok_iff.1 built
    obtain ⟨condition, _, condition_eq, built⟩ := Build.bind_eq_ok_iff.1 built
    obtain ⟨_, _, _, built⟩ := Build.bind_eq_ok_iff.1 built
    obtain ⟨_, _, _, built⟩ := Build.bind_eq_ok_iff.1 built
    obtain ⟨rfl, _⟩ := Build.pure_eq_ok_iff.1 built
    rw [Clause.condition_toValue] at condition_eq
    cases condition_eq
    rfl
  | find table criteria options =>
    obtain ⟨o, _, taken, built⟩ := Build.bind_eq_ok_iff.1 built
    obtain ⟨projection, _, projection_eq, built⟩ := Build.bind_eq_ok_iff.1 built
    obtain ⟨_, _, _, built⟩ := Build.bind_eq_ok_iff.1 built
    obtain ⟨condition, _, condition_eq, built⟩ := Build.bind_eq_ok_iff.1 built
    obtain ⟨suffix, _, suffix_eq, built⟩ := Build.bind_eq_ok_iff.1 built
    obtain ⟨_, _, _, built⟩ := Build.bind_eq_ok_iff.1 built
    obtain ⟨_, _, _, built⟩ := Build.bind_eq_ok_iff.1 built
    obtain ⟨rfl, _⟩ := Build.pure_eq_ok_iff.1 built
    have record : (Call.find table criteria options).record = o :=
      record_of_record? (Options.coerce_eq_ok_iff.1 taken).1
    subst record
    rw [Clause.condition_toValue] at condition_eq
    cases condition_eq
    rw [Clause.projection_eq_ok (wellMade_record _) (Build.lift_eq_ok_iff.1 projection_eq).1,
      Clause.suffix_eq_ok suffix_eq]
    rfl
  | update table criteria updates options =>
    simp only [sql, Statement.update] at built
    split at built
    · cases built
    · obtain ⟨o, _, taken, built⟩ := Build.bind_eq_ok_iff.1 built
      obtain ⟨_, _, _, built⟩ := Build.bind_eq_ok_iff.1 built
      obtain ⟨assignments, _, assignments_eq, built⟩ := Build.bind_eq_ok_iff.1 built
      obtain ⟨condition, _, condition_eq, built⟩ := Build.bind_eq_ok_iff.1 built
      obtain ⟨suffix, _, suffix_eq, built⟩ := Build.bind_eq_ok_iff.1 built
      obtain ⟨_, _, _, built⟩ := Build.bind_eq_ok_iff.1 built
      obtain ⟨_, _, _, built⟩ := Build.bind_eq_ok_iff.1 built
      obtain ⟨_, _, _, built⟩ := Build.bind_eq_ok_iff.1 built
      obtain ⟨rfl, _⟩ := Build.pure_eq_ok_iff.1 built
      have record : (Call.update table criteria updates options).record = o :=
        record_of_record? (Options.coerce_eq_ok_iff.1 taken).1
      subst record
      rw [Clause.assignments_toValue] at assignments_eq
      cases assignments_eq
      rw [Clause.condition_toValue] at condition_eq
      cases condition_eq
      rw [Clause.suffix_eq_ok suffix_eq]
      rfl
  | delete table criteria options =>
    obtain ⟨o, _, taken, built⟩ := Build.bind_eq_ok_iff.1 built
    obtain ⟨_, _, _, built⟩ := Build.bind_eq_ok_iff.1 built
    obtain ⟨condition, _, condition_eq, built⟩ := Build.bind_eq_ok_iff.1 built
    obtain ⟨suffix, _, suffix_eq, built⟩ := Build.bind_eq_ok_iff.1 built
    obtain ⟨_, _, _, built⟩ := Build.bind_eq_ok_iff.1 built
    obtain ⟨_, _, _, built⟩ := Build.bind_eq_ok_iff.1 built
    obtain ⟨rfl, _⟩ := Build.pure_eq_ok_iff.1 built
    have record : (Call.delete table criteria options).record = o :=
      record_of_record? (Options.coerce_eq_ok_iff.1 taken).1
    subst record
    rw [Clause.condition_toValue] at condition_eq
    cases condition_eq
    rw [Clause.suffix_eq_ok suffix_eq]
    rfl

/-- An update that succeeds gives new values to some columns. -/
theorem updates_ne_nil_of_update {call : Call} {desk after : Desk} {text : String}
    (built : call.sql desk = (.ok text, after)) (is_update : call.verb = .update) :
    call.updates.columns ≠ [] := by
  cases call with
  | update table criteria updates options =>
    intro no_columns
    have no_columns : updates.columns = [] := no_columns
    simp [sql, Statement.update, Row.isGiven_toValue, no_columns] at built
  | _ => cases is_update

/-- A prepared statement has the text of the statement, and binds the new values first. -/
theorem prepared_eq_ok {call : Call} {desk after : Desk} {p : Prepared}
    (built : call.prepared desk = (.ok p, after)) :
    (∃ middle, call.sql desk = (.ok p.sql, middle)) ∧
      p.params = call.updates.values ++ call.criteria.values := by
  cases call with
  | update table criteria updates options =>
    obtain ⟨text, middle, sql_eq, built⟩ := Build.bind_eq_ok_iff.1 built
    obtain ⟨params, _, params_eq, built⟩ := Build.bind_eq_ok_iff.1 built
    obtain ⟨rfl, _⟩ := Build.pure_eq_ok_iff.1 built
    refine ⟨⟨middle, sql_eq⟩, ?_⟩
    have bound := (Build.lift_eq_ok_iff.1 params_eq).1
    rw [Except.ok.inj (bound.symm.trans (Row.values_map_toValue [updates, criteria]))]
    simp [Call.updates, Call.criteria]
  | count table criteria | find table criteria options | delete table criteria options =>
    obtain ⟨text, middle, sql_eq, built⟩ := Build.bind_eq_ok_iff.1 built
    obtain ⟨params, _, params_eq, built⟩ := Build.bind_eq_ok_iff.1 built
    obtain ⟨rfl, _⟩ := Build.pure_eq_ok_iff.1 built
    refine ⟨⟨middle, sql_eq⟩, ?_⟩
    have bound := (Build.lift_eq_ok_iff.1 params_eq).1
    rw [Except.ok.inj (bound.symm.trans (Row.values_map_toValue [criteria]))]
    simp [Call.updates, Call.criteria]

end Call

end SqlAssembly
