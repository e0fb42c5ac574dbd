import SqlAssembly.Operation
import SqlAssembly.Proofs.Options.Intact
import SqlAssembly.Proofs.Statement.Guarded

/-!
# Operations that ask the settings

Which operations ask the settings is a matter of their arguments alone
(`Operation.asks`, `Operation.run_heeds`).  Those with nothing to order by do
not (`Operation.asks_of_ordersNothing`): their sort is absent or empty in the
options, however these are given.
-/

namespace SqlAssembly

/-! ## Nothing to order by -/

variable [Machine]

namespace Options

theorem isGiven_of_readSort {v w : Value} (read : readSort v = .ok w) (empty : v.isGiven = false) :
    w.isGiven = false := by
  unfold readSort at read
  split at read
  · cases read
    rfl
  · next entries =>
    have no_entries : entries = [] := by simpa using empty
    subst no_entries
    cases read
    rfl
  · cases read

/-- A mapping whose sort is absent or empty describes a record whose sort is empty. -/
theorem isGiven_sort_of_ofEntries {kind : OptionsKind} {entries : Entries} {o : Options}
    (described : ofEntries kind entries = .ok o)
    (empty : ∀ v, entries.getText? OptionField.sort.name = some v → v.isGiven = false) :
    o.sort.isGiven = false := by
  obtain rfl := eq_record_of_ofEntries described
  show (recordValue kind entries .sort).isGiven = false
  unfold recordValue fieldValue readEntry
  split
  · cases found : entries.getText? OptionField.sort.name with
    | none => rfl
    | some v =>
      cases read : readSort v with
      | error problems => simp [readField, read, Value.isGiven]
      | ok w => simpa [readField, read] using isGiven_of_readSort read (empty v found)
  · rfl

omit [Machine] in
theorem getText?_givenEntries {kind : OptionsKind} {given : List OptionField}
    {sort limit offset projections v : Value}
    (found : (Value.givenEntries kind given sort limit offset projections).getText?
      OptionField.sort.name = some v) : v = sort := by
  obtain ⟨entry, first, rfl⟩ := Option.map_eq_some_iff.1 found
  have named := List.find?_some first
  obtain ⟨f, _, rfl⟩ := List.mem_map.1 (List.mem_of_find?_eq_some first)
  simp only [Value.fieldEntry, Value.same_str, beq_iff_eq] at named
  cases f with
  | sort => rfl
  | limit | offset | projections => exact absurd named (by decide)

omit [Machine] in
theorem isGiven_of_plainSort {v plain : Value} (made : plainSort v = .ok plain)
    (empty : v.isGiven = false) : plain.isGiven = false := by
  cases v with
  | mapping cell entries =>
    have no_entries : entries = [] := by simpa using empty
    subst no_entries
    cases made
    rfl
  | _ =>
    cases made
    exact empty

omit [Machine] in
/-- The plain form of a record has no sort or an empty one, if the record has. -/
theorem isGiven_sort_of_plain {o : Options} {entries : Entries} {v : Value}
    (made : o.toValue.plain = .ok (Value.ofEntries entries)) (empty : o.sort.isGiven = false)
    (found : entries.getText? OptionField.sort.name = some v) : v.isGiven = false := by
  rw [plain_toValue_eq_bind] at made
  obtain ⟨sort, sorted, made⟩ := bind_eq_ok_iff.1 made
  obtain ⟨projections, _, made⟩ := bind_eq_ok_iff.1 made
  cases made
  obtain rfl := getText?_givenEntries found
  exact isGiven_of_plainSort sorted empty

end Options

/-- Whether an options argument names nothing to order by: its sort is absent or empty. -/
def Value.ordersNothing : Value → Bool
  | .mapping _ entries =>
    (Entries.getText? entries OptionField.sort.name).all fun sort => !sort.isGiven
  | .options _ _ _ sort _ _ _ => !sort.isGiven
  | _ => true

namespace Options

variable {kind : OptionsKind} {statement : String} {o : Options}

/-- A record taken for an argument that names nothing to order by has an empty sort. -/
theorem isGiven_sort_of_taken? {options : Value} (taken : taken? kind statement options = some o)
    (nothing : options.ordersNothing = true) : o.sort.isGiven = false := by
  cases options with
  | mapping cell entries =>
    refine isGiven_sort_of_ofEntries (ofEntries_of_taken? taken) fun v there => ?_
    simpa [Value.ordersNothing, there] using nothing
  | options cell given fields sort limit offset projections =>
    let record : Options := ⟨cell, given, fields, sort, limit, offset, projections⟩
    have empty : record.sort.isGiven = false := by simpa [Value.ordersNothing] using nothing
    rcases record_cases_of_taken? (o := record) taken with ⟨_, rfl⟩ | ⟨_, entries, made, described⟩
    · exact empty
    · exact isGiven_sort_of_ofEntries described fun v there => isGiven_sort_of_plain made empty there
  | null =>
    cases taken
    rfl
  | _ => cases taken

end Options

/-! ## Operations -/

namespace Operation

open Statement

/-- Whether an operation asks the settings. -/
def asks : Operation Value → Bool
  | .ordering sort => sort.isGiven
  | .suffix sort _ _ => sort.isGiven
  | .find table criteria options => (guardedFind table criteria options).asks
  | .update table criteria updates options =>
    updates.isGiven && (guardedUpdate table criteria updates options).asks
  | .delete table criteria options => (guardedDelete table criteria options).asks
  | .prepareFind table criteria options => (guardedFind table criteria options).asks
  | .prepareUpdate table criteria updates options =>
    updates.isGiven && (guardedUpdate table criteria updates options).asks
  | .prepareDelete table criteria options => (guardedDelete table criteria options).asks
  | _ => false

/-- Whether an operation is given nothing to order by. -/
def ordersNothing : Operation Value → Bool
  | .ordering sort => !sort.isGiven
  | .suffix sort _ _ => !sort.isGiven
  | .find _ _ options => options.ordersNothing
  | .update _ _ _ options => options.ordersNothing
  | .delete _ _ options => options.ordersNothing
  | .prepareFind _ _ options => options.ordersNothing
  | .prepareUpdate _ _ _ options => options.ordersNothing
  | .prepareDelete _ _ options => options.ordersNothing
  | _ => true

theorem guarded_asks_of_ordersNothing {g : Guarded} (nothing : g.options.ordersNothing = true) :
    g.asks = false := by
  cases reached : g.reached? with
  | none => exact Guarded.asks_of_not_reached reached
  | some o =>
    rw [Guarded.asks_of_reached? reached]
    exact Options.isGiven_sort_of_taken? (Guarded.record?_of_reached? reached) nothing

/-- An operation with nothing to order by does not ask the settings. -/
theorem asks_of_ordersNothing {op : Operation Value} (nothing : op.ordersNothing = true) :
    op.asks = false := by
  cases op with
  | ordering sort | suffix sort limit offset => simpa [ordersNothing, asks] using nothing
  | update table criteria updates options | prepareUpdate table criteria updates options =>
    rw [asks, guarded_asks_of_ordersNothing (g := guardedUpdate table criteria updates options)
      nothing, Bool.and_false]
  | find table criteria options | prepareFind table criteria options =>
    exact guarded_asks_of_ordersNothing (g := guardedFind table criteria options) nothing
  | delete table criteria options | prepareDelete table criteria options =>
    exact guarded_asks_of_ordersNothing (g := guardedDelete table criteria options) nothing
  | _ => rfl

/-! ## Replies of operations -/

open Build (Heeds)

omit [Machine] in
theorem asText_heeds {work : Build String} {asks : Bool} (heeds : Heeds work asks) :
    Heeds (asText work) asks := heeds.andThen fun _ => .pure _

omit [Machine] in
theorem asList_heeds {work : Build (List Value)} {asks : Bool} (heeds : Heeds work asks) :
    Heeds (asList work) asks := heeds.andThen fun _ => .pure _

omit [Machine] in
theorem asPrepared_heeds {work : Build Prepared} {asks : Bool} (heeds : Heeds work asks) :
    Heeds (asPrepared work) asks := heeds.andThen fun _ => .pure _

omit [Machine] in
/-- Binding values does not ask the settings. -/
theorem bound_heeds {work : Build String} {asks : Bool} (heeds : Heeds work asks)
    (mappings : List Value) :
    Heeds (work >>= fun sql => liftM (Binding.values mappings) >>= fun params =>
      (pure ⟨sql, params⟩ : Build Prepared)) asks :=
  heeds.andThen fun _ => (Heeds.lift _).andThen fun _ => .pure _

theorem count_heeds (table criteria : Value) : Heeds (Statement.count table criteria) false :=
  (Heeds.lift _).andThen fun _ => (Heeds.lift _).andThen fun _ => (Heeds.lift _).andThen fun _ =>
    (Heeds.emit _).andThen fun _ => .pure _

theorem find_heeds (table criteria options : Value) :
    Heeds (Statement.find table criteria options) (guardedFind table criteria options).asks := by
  rw [find_eq_build]
  exact Guarded.build_heeds _

theorem update_heeds (table criteria updates options : Value) :
    Heeds (Statement.update table criteria updates options)
      (updates.isGiven && (guardedUpdate table criteria updates options).asks) := by
  cases given : updates.isGiven with
  | true =>
    rw [update_eq_build given, Bool.true_and]
    exact Guarded.build_heeds _
  | false =>
    rw [update_of_not_given given, Bool.false_and]
    exact .refuse .update [] _

theorem delete_heeds (table criteria options : Value) :
    Heeds (Statement.delete table criteria options)
      (guardedDelete table criteria options).asks := by
  rw [delete_eq_build]
  exact Guarded.build_heeds _

theorem insert_heeds (table fields rowCount : Value) :
    Heeds (Statement.insert table fields rowCount) false := by
  refine (Heeds.checked .insert _).andThen fun rows => (Heeds.lift _).andThen fun width => ?_
  refine (Heeds.lift _).andThen fun _ => (Heeds.lift _).andThen fun columns => ?_
  refine (Heeds.lift _).andThen fun rows => (Heeds.lift _).andThen fun _ => ?_
  exact (Heeds.emit _).andThen fun _ => .pure _

theorem rowValues_heeds (fields : Value) (index : Nat) (row : Value) :
    Heeds (Binding.rowValues fields index row) false := by
  refine (Heeds.lift _).andThen fun columns => (Heeds.lift _).andThen fun lacking => ?_
  split
  · exact .lift _
  · exact (Heeds.lift _).andThen fun names => .refuse .parameters _ _

theorem rowsValues_heeds (fields : Value) (index : Nat) (rows : List Value) :
    Heeds (Binding.rowsValues fields index rows) false := by
  induction rows generalizing index with
  | nil => exact .pure []
  | cons row rest ih =>
    exact (rowValues_heeds fields index row).andThen fun these =>
      (ih (index + 1)).andThen fun more => .pure _

theorem flattened_heeds (fields rows : Value) : Heeds (Binding.flattened fields rows) false :=
  (Heeds.lift _).andThen fun all => rowsValues_heeds fields 0 all

theorem prepareInsert_heeds (table rows : Value) : Heeds (Prepared.insert table rows) false := by
  unfold Prepared.insert
  split
  · exact .refuse .prepared [] _
  · refine (Heeds.lift _).andThen fun checked => ?_
    split
    · exact .refuse .prepared [] _
    · refine (Heeds.lift _).andThen fun size => (insert_heeds _ _ _).andThen fun sql => ?_
      refine (flattened_heeds _ _).andThen fun params => ?_
      exact (Heeds.lift _).andThen fun _ => .pure _

/-- Whether an operation asks the settings is a matter of its arguments alone. -/
theorem run_heeds (op : Operation Value) : Heeds op.run op.asks := by
  cases op with
  | condition criteria | assignments updates | projection projections | joined fragments
  | placeholders arity => exact asText_heeds (.lift _)
  | ordering sort => exact asText_heeds (Clause.ordering_heeds sort)
  | suffix sort limit offset => exact asText_heeds (Clause.suffix_heeds sort limit offset)
  | values mappings => exact asList_heeds (.lift _)
  | flattened fields rows => exact asList_heeds (flattened_heeds fields rows)
  | count table criteria => exact asText_heeds (count_heeds table criteria)
  | find table criteria options => exact asText_heeds (find_heeds table criteria options)
  | insert table fields rowCount => exact asText_heeds (insert_heeds table fields rowCount)
  | update table criteria updates options =>
    exact asText_heeds (update_heeds table criteria updates options)
  | delete table criteria options => exact asText_heeds (delete_heeds table criteria options)
  | prepareCount table criteria =>
    exact asPrepared_heeds (bound_heeds (count_heeds table criteria) [criteria])
  | prepareFind table criteria options =>
    exact asPrepared_heeds (bound_heeds (find_heeds table criteria options) [criteria])
  | prepareInsert table rows => exact asPrepared_heeds (prepareInsert_heeds table rows)
  | prepareUpdate table criteria updates options =>
    exact asPrepared_heeds
      (bound_heeds (update_heeds table criteria updates options) [updates, criteria])
  | prepareDelete table criteria options =>
    exact asPrepared_heeds (bound_heeds (delete_heeds table criteria options) [criteria])

end Operation

end SqlAssembly
