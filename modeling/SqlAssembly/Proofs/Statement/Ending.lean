import SqlAssembly.Proofs.Statement.Request

/-!
# How requests end

A request is built, or one of its arguments is refused, or it fails, and the
events are those that `Request.Ending` says (`Request.ended`).

This is seen for each statement on its own.  What an operation adds to its
statement, the values to bind, neither fails nor records anything; so the
operations that make a request end alike (`Request.extends_ended`).
-/

namespace SqlAssembly

/-! ## Requests -/

namespace Mapping

theorem size_toValue (m : Mapping) : m.toValue.size = .ok m.entries.length :=
  Value.size_mapping m.cell m.entries

variable [Machine]

theorem columns_toValue (m : Mapping) :
    Clause.columns m.toValue =
      Value.unlessLimited (m.entries.keys.findSome? Value.limit?) m.entries.keys := rfl

/-- The condition that a mapping states. -/
def conditionText (m : Mapping) : String :=
  if m.entries.isEmpty then "WHERE 1" else Clause.conditionOn m.entries.keys

/-- A condition is written, unless one of the keys has no text. -/
theorem condition_toValue (m : Mapping) : Clause.condition m.toValue =
    Value.unlessLimited (m.entries.keys.findSome? Value.limit?) m.conditionText := by
  obtain ⟨cell, entries⟩ := m
  cases entries with
  | nil => rfl
  | cons entry rest =>
    rw [Clause.condition, if_pos (by rfl), columns_toValue]
    exact Value.map_unlessLimited _ _ _

theorem assignments_toValue (m : Mapping) : Clause.assignments m.toValue =
    Value.unlessLimited (m.entries.keys.findSome? Value.limit?)
      (Clause.assignmentsOf m.entries.keys) := by
  rw [Clause.assignments, columns_toValue, Value.map_unlessLimited]

end Mapping

namespace Request

variable {α β : Type} {r : Request} {desk : Desk}

variable [Machine]

/-- What neither fails nor records anything does not change how a request ends. -/
theorem EndedBy.andThen {work : Build α} {next : α → Build β} (ended : r.EndedBy work)
    (silent : ∀ a, ∃ b, next a = pure b) : r.EndedBy (work >>= next) := by
  intro desk
  obtain ⟨events, added, ending⟩ := ended desk
  rw [Build.bind_apply]
  rcases run : work desk with ⟨fault | a, after⟩ <;> rw [run] at added ending
  · refine ⟨events, added, ?_⟩
    cases ending with
    | refused listed known held => exact .refused listed known held
    | failed cause => exact .failed cause
    | unbound large => exact .unbound large
  · obtain ⟨b, same⟩ := silent a
    refine ⟨events, ?_, ?_⟩
    · simp only [same]
      exact added
    · simp only [same]
      cases ending with
      | built _ held free => exact .built b held free

theorem heard_of_asks (asks : r.asks = true) : r.heard desk = desk.unavailable :=
  if_pos asks

theorem heard_of_not_asks (quiet : r.asks = false) : r.heard desk = [] := by
  rw [heard, quiet]
  rfl

/-- Requests without options do not ask the settings and drop no offset. -/
theorem quiet_of_no_guarded (comes : r.guarded? = none) : r.asks = false ∧ r.dropped = [] := by
  rw [asks, dropped, comes]
  exact ⟨rfl, rfl⟩

/-- A request without options that is built records only that. -/
theorem Ending.built_alone (a : α) (held : ¬ r.TooLarge) (free : r.named.findSome? Value.limit? = none)
    (no_options : r.guarded? = none) : r.Ending desk (.ok a) [r.built] := by
  obtain ⟨quiet, none_dropped⟩ := quiet_of_no_guarded no_options
  have no_limit : r.limit? = none := by
    rw [limit?, window, no_options, Option.bind_none, Option.elim_none, List.append_nil, free]
  have ending : r.Ending desk (.ok a) (r.heard desk ++ r.dropped ++ [r.built]) :=
    .built a held no_limit
  rw [heard_of_not_asks quiet, none_dropped] at ending
  exact ending

/-- A request without options that is refused records only that. -/
theorem Ending.refused_alone {error : InvalidArgument} {logger : Logger}
    (listed : (error.statement, error.argument) ∈ r.refusals) (known : logger ∈ Logger.all)
    (held : ¬ r.TooLarge) (no_options : r.guarded? = none) :
    r.Ending desk (.error (.invalidArgument error) : Except Fault α) [error.event logger []] := by
  have ending : r.Ending desk (.error (.invalidArgument error) : Except Fault α)
      (r.heard desk ++ [error.event logger []]) := .refused listed known held
  rw [heard_of_not_asks (quiet_of_no_guarded no_options).1] at ending
  exact ending

/-- A request without options that fails records nothing. -/
theorem Ending.failed_alone {fault : Fault} (cause : r.Fails fault) (no_options : r.guarded? = none) :
    r.Ending desk (.error fault : Except Fault α) [] := by
  have ending : r.Ending desk (.error fault : Except Fault α) (r.heard desk) := .failed cause
  rw [heard_of_not_asks (quiet_of_no_guarded no_options).1] at ending
  exact ending

theorem Fails.of_named {limit : Value.WritingLimit}
    (stopped : r.named.findSome? Value.limit? = some limit) : r.Fails (.unwritable limit) :=
  .unwritable (by rw [limit?, List.findSome?_append, stopped, Option.some_or])

/-! ## Statements with options -/

/-- An argument that is taken for a record is taken for a well-made one. -/
theorem wellMade_of_record? {g : Statement.Guarded} {options : Options.Argument}
    (given : g.options = options.value) {o : Options} (taken : g.record? = some o) : o.WellMade := by
  rw [Statement.Guarded.record?, given] at taken
  exact Options.wellMade_of_taken? taken

/-- A request comes to a statement with options, whose head is written from some names. -/
structure ComesTo (r : Request) (g : Statement.Guarded) (n : Nat) (names : List Value)
    (criteria : Mapping) (options : Options.Argument) : Prop where
  guarded : r.guarded? = some g
  event : r.built = g.event n
  named : r.named = names ++ criteria.entries.keys
  states : g.criteria = criteria.toValue
  takes : g.options = options.value
  size : g.size = .ok n
  held : ¬ r.TooLarge
  refuses_options : (g.name, "options") ∈ r.refusals
  refuses_sort : ("order_by", "sort") ∈ r.refusals
  unchanged : r.Unchanged → ∀ o, Options.ofValue? options.value = some o → o.Intact
  /-- From an intact record the head is written, unless one of its names has no text. -/
  head_of_intact : ∀ o : Options, o.Intact →
    ∃ text, g.head o = Value.unlessLimited (names.findSome? Value.limit?) text
  /-- It is only written if all of them have one. -/
  free_of_head : ∀ o text, g.head o = .ok text → names.findSome? Value.limit? = none

namespace ComesTo

variable {g : Statement.Guarded} {n : Nat} {names : List Value} {criteria : Mapping}
  {options : Options.Argument} (comes : r.ComesTo g n names criteria options)

include comes

theorem asks_eq : r.asks = g.asks := by rw [asks, comes.guarded, Option.any_some]

theorem window_eq {o : Options} (taken : g.record? = some o) :
    r.window = Clause.window o.limit o.offset := by
  rw [window, comes.guarded, Option.bind_some, taken, Option.elim_some]

/-- A record is only reached where all names and keys have a text. -/
theorem free_of_reached {o : Options} (reached : g.reached? = some o) :
    r.named.findSome? Value.limit? = none := by
  rw [Statement.Guarded.reached?, Option.filter_eq_some_iff, Bool.and_eq_true] at reached
  obtain ⟨_, head, condition⟩ := reached
  cases written : g.head o with
  | error fault =>
    rw [written] at head
    cases head
  | ok text =>
    have stated := criteria.condition_toValue
    rw [comes.states, stated] at condition
    rw [comes.named, List.findSome?_append, comes.free_of_head o _ written, Option.none_or]
    cases keys : criteria.entries.keys.findSome? Value.limit? with
    | none => rfl
    | some limit =>
      rw [keys] at condition
      cases condition

/-- So nothing else can be without a text than what is written of the window. -/
theorem limit?_eq {o : Options} (reached : g.reached? = some o) :
    r.limit? = (Clause.window o.limit o.offset).findSome? Value.limit? := by
  rw [limit?, List.findSome?_append, comes.free_of_reached reached, Option.none_or,
    comes.window_eq (Statement.Guarded.record?_of_reached? reached)]

/-- With an intact record, a statement only fails where something has no text. -/
theorem fails {fault : Fault} (cause : g.Fails fault) : r.Fails fault := by
  by_cases same : r.Unchanged
  · have intact (o : Options) (taken : g.record? = some o) : o.Intact := by
      rw [Statement.Guarded.record?, comes.takes] at taken
      exact Options.intact_of_taken? (comes.unchanged same) taken
    cases cause with
    | record made =>
      obtain ⟨needed, made_anyway⟩ := Options.asNeeded_of_intact g.kind (comes.unchanged same)
      rw [comes.takes, made_anyway] at made
      cases made
    | @head _ o taken failed =>
      obtain ⟨text, written⟩ := comes.head_of_intact o (intact o taken)
      obtain ⟨limit, found, rfl⟩ :=
        Value.unlessLimited_eq_error_iff.1 (written.symm.trans failed)
      exact .of_named (by rw [comes.named, List.findSome?_append, found, Option.some_or])
    | @condition _ o head taken written failed =>
      have stated := criteria.condition_toValue
      rw [comes.states, stated] at failed
      obtain ⟨limit, found, rfl⟩ := Value.unlessLimited_eq_error_iff.1 failed
      refine .of_named ?_
      rw [comes.named, List.findSome?_append, comes.free_of_head o _ written, Option.none_or, found]
    | @ordering o cell entries entry limit taken sort among stopped =>
      -- An intact ordering is of texts.
      rcases (intact o taken).sort with none_given | ⟨_, pairs, texts⟩
      · rw [none_given] at sort
        cases sort
      · rw [texts] at sort
        cases sort
        obtain ⟨pair, _, rfl⟩ := List.mem_map.1 among
        simp [Clause.entryLimit?, Clause.directionToken] at stopped
    | @window o limit reached stopped =>
      exact .unwritable ((comes.limit?_eq reached).trans stopped)
  · exact .changed fault same

/-- A request ends as its statement with options does. -/
theorem endedBy : r.EndedBy g.build := by
  have options_known : Logger.options ∈ Logger.all := by decide
  have clauses_known : Logger.clauses ∈ Logger.all := by decide
  have dropped : r.dropped = g.droppedOffset := by rw [Request.dropped, comes.guarded]
  have asked (desk : Desk) : (g.askedDesk desk).events = desk.events ++ r.heard desk := by
    rw [heard, comes.asks_eq, Statement.Guarded.askedDesk]
    cases g.asks <;> simp
  intro desk
  have ended : g.Ends n desk (g.build desk) :=
    Statement.Guarded.build_ends comes.size fun o => wellMade_of_record? comes.takes
  generalize g.build desk = run at ended
  cases ended with
  | @built o text reached free =>
    have no_limit : r.limit? = none := (comes.limit?_eq reached).trans free
    refine ⟨r.heard desk ++ r.dropped ++ [r.built], ?_, .built text comes.held no_limit⟩
    simp only [Desk.recordAll, asked, dropped, comes.event, List.append_assoc]
  | options statement argument quiet =>
    refine ⟨_, ?_, .refused (statement ▸ argument ▸ comes.refuses_options) options_known comes.held⟩
    rw [heard_of_not_asks (comes.asks_eq.trans quiet)]
    rfl
  | direction column token asks =>
    refine ⟨_, ?_, .refused comes.refuses_sort clauses_known comes.held⟩
    rw [heard_of_asks (comes.asks_eq.trans asks), Desk.record, Desk.events_asked, List.append_assoc]
  | failed cause => exact ⟨_, asked desk, .failed (comes.fails cause)⟩

end ComesTo

/-! ## Each statement -/

theorem count_ended (table : String) (criteria : Mapping) :
    (count table criteria).EndedBy (Statement.count (.str table) criteria.toValue) := by
  intro desk
  let r := count table criteria
  have stated := criteria.condition_toValue
  simp only [Statement.count, Value.written_str, stated, criteria.size_toValue, Build.bind_apply,
    Build.lift_apply]
  cases found : criteria.entries.keys.findSome? Value.limit? with
  | none => exact ⟨[r.built], rfl, .built_alone _ id found rfl⟩
  | some limit => exact ⟨[], (List.append_nil _).symm, .failed_alone (.of_named found) rfl⟩

theorem find_comesTo (table : String) (criteria : Mapping) (options : Options.Argument) :
    (find table criteria options).ComesTo
      (Statement.guardedFind (.str table) criteria.toValue options.value) criteria.entries.length []
      criteria options := by
  have head (o : Options) (intact : o.Intact) : ∃ text,
      (Statement.guardedFind (.str table) criteria.toValue options.value).head o = .ok text := by
    obtain ⟨projection, written⟩ := Options.projection_of_intact intact
    simp only [Statement.guardedFind, written, Value.written_str]
    exact ⟨_, rfl⟩
  exact
    { guarded := rfl, event := rfl, named := rfl, states := rfl, takes := rfl
      size := criteria.size_toValue, held := id, refuses_options := .head _
      refuses_sort := .tail _ (.head _), unchanged := id
      head_of_intact := head, free_of_head := fun _ _ _ => rfl }

theorem find_ended (table : String) (criteria : Mapping) (options : Options.Argument) :
    (find table criteria options).EndedBy
      (Statement.find (.str table) criteria.toValue options.value) := by
  rw [Statement.find_eq_build]
  exact (find_comesTo table criteria options).endedBy

theorem delete_comesTo (table : String) (criteria : Mapping) (options : Options.Argument) :
    (delete table criteria options).ComesTo
      (Statement.guardedDelete (.str table) criteria.toValue options.value) criteria.entries.length
      [] criteria options := by
  have head (o : Options) : (Statement.guardedDelete (.str table) criteria.toValue
      options.value).head o = .ok (Statement.deleteHead (.str table)) := by
    simp only [Statement.guardedDelete, Value.written_str]
    rfl
  exact
    { guarded := rfl, event := rfl, named := rfl, states := rfl, takes := rfl
      size := criteria.size_toValue, held := id, refuses_options := .head _
      refuses_sort := .tail _ (.head _), unchanged := id
      head_of_intact := fun o _ => ⟨_, head o⟩, free_of_head := fun _ _ _ => rfl }

theorem delete_ended (table : String) (criteria : Mapping) (options : Options.Argument) :
    (delete table criteria options).EndedBy
      (Statement.delete (.str table) criteria.toValue options.value) := by
  rw [Statement.delete_eq_build]
  exact (delete_comesTo table criteria options).endedBy

theorem update_comesTo (table : String) (criteria : Mapping) {updates : Mapping}
    (given : updates.toValue.isGiven = true) (options : Options.Argument) :
    (update table criteria updates options).ComesTo
      (Statement.guardedUpdate (.str table) criteria.toValue updates.toValue options.value)
      (updates.entries.length + criteria.entries.length) updates.entries.keys criteria options := by
  have head (o : Options) : (Statement.guardedUpdate (.str table) criteria.toValue
      updates.toValue options.value).head o =
        Value.unlessLimited (updates.entries.keys.findSome? Value.limit?)
          (Statement.updateHead (.str table) (Clause.assignmentsOf updates.entries.keys)) := by
    simp only [Statement.guardedUpdate, Value.written_str, updates.assignments_toValue,
      Value.map_unlessLimited]
    rfl
  exact
    { guarded := if_neg (by simpa [Mapping.toValue] using given), event := rfl, named := rfl
      states := rfl, takes := rfl
      size := Statement.size_guardedUpdate (.str table) options.value criteria.cell updates.cell
        criteria.entries updates.entries
      held := id, refuses_options := .tail _ (.head _)
      refuses_sort := .tail _ (.tail _ (.head _)), unchanged := id
      head_of_intact := fun o _ => ⟨_, head o⟩
      free_of_head := fun o _ written =>
        (Value.unlessLimited_eq_ok_iff.1 ((head o).symm.trans written)).1 }

theorem update_ended (table : String) (criteria updates : Mapping) (options : Options.Argument) :
    (update table criteria updates options).EndedBy
      (Statement.update (.str table) criteria.toValue updates.toValue options.value) := by
  by_cases given : updates.toValue.isGiven = true
  · rw [Statement.update_eq_build given]
    exact (update_comesTo table criteria given options).endedBy
  · have not_given := Bool.eq_false_iff.2 given
    have comes : (update table criteria updates options).guarded? = none :=
      if_pos (by simpa [Mapping.toValue] using not_given)
    have known : Logger.update ∈ Logger.all := by decide
    intro desk
    rw [Statement.update_of_not_given not_given]
    exact ⟨_, rfl, .refused_alone (.head _) known id comes⟩

/-- A request that comes to a statement with options does so in one of these ways. -/
theorem exists_comesTo {g : Statement.Guarded} (comes : r.guarded? = some g) :
    ∃ n names criteria options, r.ComesTo g n names criteria options := by
  cases r with
  | find table criteria options =>
    cases comes
    exact ⟨_, _, _, _, find_comesTo table criteria options⟩
  | delete table criteria options =>
    cases comes
    exact ⟨_, _, _, _, delete_comesTo table criteria options⟩
  | update table criteria updates options =>
    have given : updates.toValue.isGiven = true := by
      rw [guarded?] at comes
      split at comes
      · cases comes
      · next given => simpa [Mapping.toValue] using given
    have comes_to := update_comesTo table criteria given options
    obtain rfl := Option.some.inj (comes.symm.trans comes_to.guarded)
    exact ⟨_, _, _, _, comes_to⟩
  | count => cases comes
  | insert => cases comes
  | insertRows => cases comes

/-! ## Inserts -/

/-- Columns that are none are refused, then a number of rows that is none, if it has a text. -/
theorem insertRows_cases (columns : Columns) (rowCount : Value) :
    (columns.names = [] ∧ Statement.insertRows columns.toValue rowCount =
        .error (.invalidArgument (Statement.noColumns columns.toValue))) ∨
      (Statement.rowCount? rowCount = none ∧ Statement.insertRows columns.toValue rowCount =
        rowCount.written >>= fun _ => .error (.invalidArgument (Statement.noRowCount rowCount))) ∨
      columns.names ≠ [] ∧ ∃ n, Statement.rowCount? rowCount = some n ∧
        Statement.insertRows columns.toValue rowCount = .ok n := by
  rw [Statement.insertRows, columns.text?_toValue, columns.isGiven_toValue]
  cases columns.names with
  | nil => exact Or.inl ⟨rfl, rfl⟩
  | cons name rest =>
    refine Or.inr ?_
    cases counted : Statement.rowCount? rowCount with
    | none => exact Or.inl ⟨rfl, rfl⟩
    | some n => exact Or.inr ⟨List.cons_ne_nil _ _, n, rfl, rfl⟩

omit [Machine] in
theorem built_insert (table : String) (columns : Columns) {rowCount : Value} {n : Nat}
    (counted : Statement.rowCount? rowCount = some n) :
    (insert table columns rowCount).built = Statement.built .insert "insert" (.str table)
      (("rows", .count n) :: Statement.placeholderCount (columns.names.length * n)) := by
  have rows : (insert table columns rowCount).rows? = some n := counted
  have bound : (insert table columns rowCount).bound = columns.names.length * n := by
    rw [Request.bound, counted, Option.getD_some]
  rw [built, rows, bound]
  rfl

/-- An insert that memory does not hold fails with that before it is built. -/
theorem Fails.of_sizeFault (large : r.TooLarge) (unbuilt : ¬ r.Unbound) (n : Nat) :
    r.Fails (Statement.sizeFault n) := by
  rcases Prepared.sizeFault_cases n with same | same <;> rw [same]
  · exact .memory large unbuilt
  · exact .count large unbuilt

theorem insert_ended (table : String) (columns : Columns) (rowCount : Value) :
    (insert table columns rowCount).EndedBy
      (Statement.insert (.str table) columns.toValue rowCount) := by
  intro desk
  let r := insert table columns rowCount
  have known : Logger.insert ∈ Logger.all := by decide
  rcases insertRows_cases columns rowCount with
    ⟨none_there, refused⟩ | ⟨no_count, refused⟩ | ⟨some_columns, n, counted, accepted⟩
  · have held : ¬ r.TooLarge := fun large => large.1 none_there
    rw [Statement.insert, refused]
    exact ⟨_, rfl, .refused_alone (.head _) known held rfl⟩
  · have held : ¬ r.TooLarge := fun large => by
      obtain ⟨n, counted, _⟩ := large.2
      cases counted.symm.trans no_count
    have named : r.named = [rowCount] := if_neg (by rw [no_count]; exact Bool.false_ne_true)
    rw [Statement.insert, refused, Value.written]
    cases stopped : rowCount.limit? with
    | none => exact ⟨_, rfl, .refused_alone (.tail _ (.head _)) known held rfl⟩
    | some limit =>
      have found : r.named.findSome? Value.limit? = some limit := by
        rw [named, List.findSome?_singleton, stopped]
      exact ⟨[], (List.append_nil _).symm, .failed_alone (.of_named found) rfl⟩
  · have named : r.named = [] := if_pos (by rw [counted]; rfl)
    by_cases fits : Statement.Fits table columns.names n
    · have held : ¬ r.TooLarge := fun large => by
        obtain ⟨m, counted_too, too_large⟩ := large.2
        obtain rfl : n = m := Option.some.inj (counted.symm.trans counted_too)
        exact too_large fits
      rw [Statement.insert_of_fits accepted columns.size_toValue (columns.join_toValue ",") desk fits,
        ← built_insert table columns counted]
      exact ⟨[r.built], rfl, .built_alone _ held (by rw [named]; rfl) rfl⟩
    · have large : r.TooLarge := ⟨some_columns, n, counted, fits⟩
      rw [Statement.insert_of_not_fits accepted columns.size_toValue (columns.join_toValue ",") desk
        fits]
      exact ⟨[], (List.append_nil _).symm, .failed_alone (.of_sizeFault large id n) rfl⟩

theorem insertRows_ended (table : String) (cell : Cell) (rows : List Row) :
    (insertRows table cell rows).EndedBy
      (Prepared.insert (.str table) (.list cell (rows.map Row.toValue))) := by
  intro desk
  let r := insertRows table cell rows
  have prepared_known : Logger.prepared ∈ Logger.all := by decide
  have insert_known : Logger.insert ∈ Logger.all := by decide
  by_cases insertable : Prepared.Insertable rows
  · by_cases fits : Statement.Fits table (Prepared.fields rows) rows.length
    · obtain ⟨sql, after, _, rfl, run⟩ :=
        @Prepared.insert_of_fits _ cell rows desk table insertable fits
      rw [run, Binding.hold]
      by_cases large : Machine.memory ≤
          (Prepared.fields rows).length * rows.length * Statement.placeSize
      · rw [if_pos large]
        exact ⟨[r.built], rfl,
          .unbound ⟨insertable, fits, fun held => Nat.not_le.2 held.values large⟩⟩
      · rw [if_neg large]
        have held : ¬ r.TooLarge := fun too_large => too_large.2 ⟨fits, Nat.not_le.1 large⟩
        exact ⟨[r.built], rfl, .built_alone _ held rfl rfl⟩
    · have large : r.TooLarge := ⟨insertable, fun held => fits held.insert⟩
      rw [Prepared.insert_of_not_fits insertable fits]
      exact ⟨[], (List.append_nil _).symm,
        .failed_alone (.of_sizeFault large (fun unbound => fits unbound.2.1) _) rfl⟩
  · have held : ¬ r.TooLarge := fun large => insertable large.1
    rcases Prepared.cases_of_not_insertable insertable with none_there | ⟨i, row, first_odd⟩ |
      ⟨some_rows, none_there⟩
    · subst none_there
      rw [List.map_nil, Prepared.insert_nil]
      exact ⟨_, rfl, .refused_alone (.head _) prepared_known held rfl⟩
    · rw [Prepared.insert_of_firstOdd first_odd]
      exact ⟨_, rfl, .refused_alone (.head _) prepared_known held rfl⟩
    · rw [Prepared.insert_of_no_columns some_rows none_there]
      exact ⟨_, rfl, .refused_alone (.tail _ (.head _)) insert_known held rfl⟩

/-! ## Each operation -/

/-- An operation that adds something to another one which neither fails nor records anything. -/
def Extends (longer : Build β) (work : Build α) : Prop :=
  ∃ next : α → Build β, (∀ a, ∃ b, next a = pure b) ∧ longer = work >>= next

omit [Machine] in
theorem asText_extends (work : Build String) : Extends (Operation.asText work) work :=
  ⟨_, fun text => ⟨.str text, rfl⟩, rfl⟩

omit [Machine] in
theorem asPrepared_extends {work : Build String} {mappings : List Value} {params : List Value}
    (bound : Binding.values mappings = .ok params) :
    Extends (Operation.asPrepared (work >>= fun sql =>
      liftM (Binding.values mappings) >>= fun params => pure ⟨sql, params⟩)) work := by
  refine ⟨fun sql => pure (Prepared.toValue ⟨sql, params⟩), fun sql => ⟨_, rfl⟩, ?_⟩
  rw [bound, Operation.asPrepared, Build.bind_assoc]
  rfl

omit [Machine] in
theorem values_mappings (first second : Mapping) :
    Binding.values [first.toValue, second.toValue] =
      .ok (first.entries.values ++ second.entries.values) := by
  simp [Binding.values, Mapping.toValue, Value.entriesBy, bind, Except.bind, pure, Except.pure]

/-- The operations that make a request all extend one, which ends as the request does. -/
theorem extends_ended (r : Request) : ∃ (γ : Type) (work : Build γ), r.EndedBy work ∧
    ∀ op ∈ r.operations, Extends op.run work := by
  cases r with
  | count table criteria =>
    refine ⟨_, _, count_ended table criteria, List.forall_mem_cons.2 ⟨asText_extends _, ?_⟩⟩
    exact List.forall_mem_singleton.2 (asPrepared_extends (Binding.values_mapping _ _))
  | find table criteria options =>
    refine ⟨_, _, find_ended table criteria options, List.forall_mem_cons.2 ⟨asText_extends _, ?_⟩⟩
    exact List.forall_mem_singleton.2 (asPrepared_extends (Binding.values_mapping _ _))
  | insert table columns rowCount =>
    exact ⟨_, _, insert_ended table columns rowCount,
      List.forall_mem_singleton.2 (asText_extends _)⟩
  | insertRows table cell rows =>
    exact ⟨_, _, insertRows_ended table cell rows,
      List.forall_mem_singleton.2 ⟨_, fun p => ⟨p.toValue, rfl⟩, rfl⟩⟩
  | update table criteria updates options =>
    refine ⟨_, _, update_ended table criteria updates options,
      List.forall_mem_cons.2 ⟨asText_extends _, ?_⟩⟩
    exact List.forall_mem_singleton.2 (asPrepared_extends (values_mappings updates criteria))
  | delete table criteria options =>
    refine ⟨_, _, delete_ended table criteria options,
      List.forall_mem_cons.2 ⟨asText_extends _, ?_⟩⟩
    exact List.forall_mem_singleton.2 (asPrepared_extends (Binding.values_mapping _ _))

/-- Every operation that makes a request ends as the request does. -/
theorem ended {op : Operation Value} (among : op ∈ r.operations) : r.EndedBy op.run := by
  obtain ⟨γ, work, ended, extended⟩ := r.extends_ended
  obtain ⟨next, silent, same⟩ := extended op among
  rw [same]
  exact ended.andThen silent

/-- All operations that make a request succeed where one does. -/
theorem isOk_eq {op other : Operation Value} (among : op ∈ r.operations)
    (other_among : other ∈ r.operations) (desk : Desk) :
    (op.run desk).1.isOk = (other.run desk).1.isOk := by
  obtain ⟨γ, work, _, extended⟩ := r.extends_ended
  have as_work {longer : Build Value} (extends_work : Extends longer work) :
      (longer desk).1.isOk = (work desk).1.isOk := by
    obtain ⟨next, silent, rfl⟩ := extends_work
    rw [Build.bind_apply]
    rcases work desk with ⟨fault | a, after⟩
    · rfl
    · obtain ⟨b, same⟩ := silent a
      simp only [same]
      rfl
  rw [as_work (extended op among), as_work (extended other other_among)]

end Request

end SqlAssembly
