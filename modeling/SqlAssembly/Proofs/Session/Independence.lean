import SqlAssembly.Proofs.Session.Requests

/-!
# Independence of the journal

How the journal is configured does not change what an operation does.  It comes
to the same, and the same is kept of the settings, whatever the thresholds of
loggers are and whatever handlers there are; of its events, those that pass
their logger's threshold are written, in their order
(`Session.independent_of_journal`).

An event that has no written form would be seen, since it ends the operation
where it is to be written and is dropped elsewhere.  So operations are looked
at for what they record (`Build.Legible`).  Errors say what they say in texts, and
things are counted.  What a caller gives is recorded in two places: the table of a
statement, and an offset that is dropped.  The latter is an integer if it comes
from a record, but it may have too many digits; a caller who asks for the end of a
statement alone may give anything (`Session.journal_matters`).
-/

namespace SqlAssembly

section

/-! ## What operations record -/

variable [Machine]

namespace Build

variable {α β : Type}

/-- An operation that adds only events that can be written. -/
def Legible (work : Build α) : Prop :=
  ∀ desk, (∀ event ∈ desk.events, event.IsWritable) → ∀ event ∈ (work desk).2.events,
    event.IsWritable

namespace Legible

theorem pure (a : α) : Legible (Pure.pure a : Build α) := fun _ before => before

theorem lift (result : Except Fault α) : Legible (liftM result : Build α) := fun _ before => before

theorem emit {event : Event} (writable : event.IsWritable) : Legible (Build.emit event) :=
  fun _ before => List.forall_mem_append.2 ⟨before, List.forall_mem_singleton.2 writable⟩

/-- What comes next need be legible only for the results that there can be. -/
theorem bind {work : Build α} {next : α → Build β} (first : Legible work)
    (rest : ∀ a desk after, work desk = (.ok a, after) → Legible (next a)) :
    Legible (work >>= next) := by
  intro desk before
  have written := first desk before
  rw [bind_apply]
  rcases run : work desk with ⟨fault | a, after⟩ <;> rw [run] at written
  · exact written
  · exact rest a desk after run after written

theorem andThen {work : Build α} {next : α → Build β} (first : Legible work)
    (rest : ∀ a, Legible (next a)) : Legible (work >>= next) :=
  first.bind fun a _ _ _ => rest a

theorem refuse {logger : Logger} (known : logger ∈ Logger.all) {before : Bindings Detail}
    (simple : Event.SimpleFields before) {error : InvalidArgument}
    (no_origin : (error.event logger before).fields.get? Event.originField = none) :
    Legible (Build.refuse logger before error : Build α) := by
  have writable : (error.event logger before).IsWritable := by
    refine ⟨known, fun field among => ?_, no_origin⟩
    rcases List.mem_append.1 among with given | own
    · exact (simple field given).isWritable
    · exact ((Request.event_isSimple error known).fields field own).isWritable
  exact (emit writable).andThen fun _ => fun _ before => before

theorem checked {logger : Logger} (known : logger ∈ Logger.all) (result : Except Fault α) :
    Legible (Build.checked logger result) := by
  unfold Build.checked
  split
  · exact .refuse known (List.forall_mem_nil _) rfl
  · exact .lift _

end Legible

end Build

/-! ## Clauses and options -/

/-- A text, as the name of a table is one. -/
def Value.IsText (v : Value) : Prop := ∃ s, v = .str s

open Build (Legible)

theorem Clause.strictness_legible : Legible strictness := by
  intro desk before
  rw [Clause.strictness_apply, Desk.events_asked]
  exact List.forall_mem_append.2
    ⟨before, fun event among => (desk.unavailable_isSimple event among).isWritable⟩

theorem Clause.ordering_legible (sort : Value) : Legible (ordering sort) := by
  unfold ordering
  split
  · refine strictness_legible.andThen fun strict => (Legible.lift _).andThen fun entries => ?_
    exact (Legible.checked (by decide) _).andThen fun columns => .pure _
  · exact .pure _

/-- An offset is recorded only where there is no limit. -/
theorem Clause.suffix_legible {limit offset : Value}
    (writable : limit.kind = .null → offset.IsWritable) (sort : Value) :
    Legible (suffix sort limit offset) := by
  refine (ordering_legible sort).andThen fun order => ?_
  have ended : Legible ((liftM (Value.writable (window limit offset)) : Build (List Value)) >>=
      fun _ => pure (joined (order :: windowFragments limit offset))) :=
    (Legible.lift _).andThen fun _ => .pure _
  split
  · next alone =>
    exact (Legible.emit (offsetDropped_isWritable (writable alone.1))).andThen fun _ => ended
  · exact ended

theorem Options.coerce_legible (options : Value) (kind : OptionsKind) (statement : String) :
    Legible (coerce options kind statement) := by
  refine (Legible.lift _).andThen fun needed => ?_
  split
  · exact .pure _
  · exact .refuse (by decide) (List.forall_mem_nil _) rfl

/-- Options that may be recorded: a record is a well-made one, and an offset that is dropped has a
text. -/
structure Options.Recordable (kind : OptionsKind) (statement : String) (options : Value) : Prop where
  /-- A record is a well-made one. -/
  wellMade : ∀ o, ofValue? options = some o → o.WellMade
  /-- An offset without a limit has a text. -/
  offset : ∀ o, taken? kind statement options = some o → o.limit.kind = .null →
    o.offset.limit? = none

/-- An offset without a limit has a form in journal lines. -/
theorem Options.Recordable.offset_isWritable {kind : OptionsKind} {statement : String}
    {options : Value} (recordable : Recordable kind statement options) {o : Options}
    (taken : taken? kind statement options = some o) (alone : o.limit.kind = .null) :
    o.offset.IsWritable :=
  have wellMade : o.WellMade :=
    @wellMade_of_taken? _ kind statement ⟨options, recordable.wellMade⟩ o taken
  wellMade.offset.isWritable (recordable.offset o taken alone)

/-! ## Statements -/

namespace Statement

variable {table criteria : Value}

/-- That a statement on a named table was built can be written. -/
theorem built_isWritable {logger : Logger} (known : logger ∈ Logger.all) (statement : String)
    (named : table.IsText) {counts : Bindings Detail} (simple : Event.SimpleFields counts)
    (no_origin : counts.get? Event.originField = none) :
    (built logger statement table counts).IsWritable := by
  obtain ⟨name, rfl⟩ := named
  have heading : Event.SimpleFields
      [("statement", .value (.str statement)), ("table", .value (.str name))] :=
    List.forall_mem_cons.2 ⟨.text _, List.forall_mem_singleton.2 (.text _)⟩
  have fields : Event.SimpleFields (built logger statement (.str name) counts).fields :=
    List.forall_mem_append.2 ⟨heading, simple⟩
  exact ⟨known, fun field among => (fields field among).isWritable, no_origin⟩

omit [Machine] in
theorem placeholderCount_simple (n : Nat) : Event.SimpleFields (placeholderCount n) :=
  List.forall_mem_singleton.2 (.count _)

theorem count_legible (named : table.IsText) (criteria : Value) :
    Legible (count table criteria) := by
  refine (Legible.lift _).andThen fun _ => ?_
  refine (Legible.lift _).andThen fun condition => (Legible.lift _).andThen fun size => ?_
  have writable := built_isWritable (show Logger.select ∈ Logger.all by decide) "count" named
    (placeholderCount_simple size) rfl
  exact (Legible.emit writable).andThen fun _ => .pure _

theorem Guarded.build_legible {g : Guarded} (known : g.logger ∈ Logger.all)
    (named : g.table.IsText) (recordable : Options.Recordable g.kind g.name g.options) :
    Legible g.build := by
  refine (Options.coerce_legible g.options g.kind g.name).bind fun o desk after coerced => ?_
  have offset := recordable.offset_isWritable (Options.coerce_eq_ok_iff.1 coerced).1
  refine (Legible.lift _).andThen fun head => (Legible.lift _).andThen fun condition => ?_
  refine (Clause.suffix_legible offset o.sort).andThen fun _ => ?_
  refine (Legible.lift _).andThen fun size => ?_
  have writable := built_isWritable known g.name named (placeholderCount_simple size) rfl
  exact (Legible.emit writable).andThen fun _ => .pure _

theorem find_legible (named : table.IsText) (criteria : Value) {options : Value}
    (recordable : Options.Recordable .find "find" options) :
    Legible (find table criteria options) := by
  rw [find_eq_build]
  exact Guarded.build_legible (show Logger.select ∈ Logger.all by decide) named recordable

theorem update_legible (named : table.IsText) (criteria updates : Value) {options : Value}
    (recordable : Options.Recordable .orderLimit "update" options) :
    Legible (update table criteria updates options) := by
  cases given : updates.isGiven with
  | true =>
    rw [update_eq_build given]
    exact Guarded.build_legible (show Logger.update ∈ Logger.all by decide) named recordable
  | false =>
    rw [update_of_not_given given]
    exact .refuse (by decide) (List.forall_mem_nil _) rfl

theorem delete_legible (named : table.IsText) (criteria : Value) {options : Value}
    (recordable : Options.Recordable .orderLimit "delete" options) :
    Legible (delete table criteria options) := by
  rw [delete_eq_build]
  exact Guarded.build_legible (show Logger.delete ∈ Logger.all by decide) named recordable

theorem insert_legible (named : table.IsText) (fields rowCount : Value) :
    Legible (insert table fields rowCount) := by
  refine (Legible.checked (by decide) _).andThen fun rows => ?_
  refine (Legible.lift _).andThen fun width => (Legible.lift _).andThen fun _ => ?_
  refine (Legible.lift _).andThen fun columns => (Legible.lift _).andThen fun rows => ?_
  have counts : Event.SimpleFields (("rows", .count rows) :: placeholderCount (width * rows)) :=
    List.forall_mem_cons.2 ⟨.count _, placeholderCount_simple _⟩
  have writable := built_isWritable (show Logger.insert ∈ Logger.all by decide) "insert" named
    counts rfl
  exact (Legible.lift _).andThen fun _ => (Legible.emit writable).andThen fun _ => .pure _

end Statement

/-! ## Values to bind -/

namespace Binding

theorem rowValues_legible (fields : Value) (index : Nat) (row : Value) :
    Legible (rowValues fields index row) := by
  refine (Legible.lift _).andThen fun columns => (Legible.lift _).andThen fun lacking => ?_
  split
  · exact .lift _
  · exact (Legible.lift _).andThen fun names =>
      .refuse (by decide) (List.forall_mem_singleton.2 (.count _)) rfl

theorem rowsValues_legible (fields : Value) (index : Nat) (rows : List Value) :
    Legible (rowsValues fields index rows) := by
  induction rows generalizing index with
  | nil => exact .pure []
  | cons row rest ih =>
    exact (rowValues_legible fields index row).andThen fun these =>
      (ih (index + 1)).andThen fun more => .pure _

theorem flattened_legible (fields rows : Value) : Legible (flattened fields rows) :=
  (Legible.lift _).andThen fun all => rowsValues_legible fields 0 all

end Binding

theorem Prepared.insert_legible {table : Value} (named : table.IsText) (rows : Value) :
    Legible (insert table rows) := by
  unfold insert
  split
  · exact .refuse (by decide) (List.forall_mem_nil _) rfl
  · refine (Legible.lift _).andThen fun checked => ?_
    split
    · exact .refuse (by decide) (List.forall_mem_nil _) rfl
    · refine (Legible.lift _).andThen fun size => ?_
      refine (Statement.insert_legible named _ _).andThen fun sql => ?_
      refine (Binding.flattened_legible _ _).andThen fun params => ?_
      exact (Legible.lift _).andThen fun _ => .pure _

/-! ## Operations -/

namespace Operation

/-- What an operation may record of its arguments can be written: a table is a text, and options
that are a record are a well-made one, with a number for an offset.  An offset that is dropped has a
form in journal lines. -/
def Recordable : Operation Value → Prop
  | .suffix _ limit offset => limit.kind = .null → offset.IsWritable
  | .count table _ | .insert table _ _ | .prepareCount table _ | .prepareInsert table _ =>
    table.IsText
  | .find table _ options | .prepareFind table _ options =>
    table.IsText ∧ Options.Recordable .find "find" options
  | .update table _ _ options | .prepareUpdate table _ _ options =>
    table.IsText ∧ Options.Recordable .orderLimit "update" options
  | .delete table _ options | .prepareDelete table _ options =>
    table.IsText ∧ Options.Recordable .orderLimit "delete" options
  | _ => True

theorem asText_legible {work : Build String} (legible : Legible work) : Legible (asText work) :=
  legible.andThen fun _ => .pure _

theorem asList_legible {work : Build (List Value)} (legible : Legible work) :
    Legible (asList work) := legible.andThen fun _ => .pure _

theorem asPrepared_legible {work : Build Prepared} (legible : Legible work) :
    Legible (asPrepared work) := legible.andThen fun _ => .pure _

theorem bound_legible {work : Build String} (legible : Legible work) (mappings : List Value) :
    Legible (work >>= fun sql => liftM (Binding.values mappings) >>= fun params =>
      (pure ⟨sql, params⟩ : Build Prepared)) :=
  legible.andThen fun _ => (Legible.lift _).andThen fun _ => .pure _

theorem run_legible {op : Operation Value} (recordable : op.Recordable) : Legible op.run := by
  cases op with
  | condition _ | assignments _ | projection _ | joined _ | placeholders _ =>
    exact asText_legible (.lift _)
  | ordering sort => exact asText_legible (Clause.ordering_legible sort)
  | suffix sort limit offset => exact asText_legible (Clause.suffix_legible recordable sort)
  | values mappings => exact asList_legible (.lift _)
  | flattened fields rows => exact asList_legible (Binding.flattened_legible fields rows)
  | count table criteria => exact asText_legible (Statement.count_legible recordable criteria)
  | insert table fields rowCount =>
    exact asText_legible (Statement.insert_legible recordable fields rowCount)
  | find table criteria options =>
    obtain ⟨named, options_recordable⟩ := recordable
    exact asText_legible (Statement.find_legible named criteria options_recordable)
  | update table criteria updates options =>
    obtain ⟨named, options_recordable⟩ := recordable
    exact asText_legible (Statement.update_legible named criteria updates options_recordable)
  | delete table criteria options =>
    obtain ⟨named, options_recordable⟩ := recordable
    exact asText_legible (Statement.delete_legible named criteria options_recordable)
  | prepareCount table criteria =>
    exact asPrepared_legible (bound_legible (Statement.count_legible recordable criteria) _)
  | prepareInsert table rows => exact asPrepared_legible (Prepared.insert_legible recordable rows)
  | prepareFind table criteria options =>
    obtain ⟨named, options_recordable⟩ := recordable
    exact asPrepared_legible
      (bound_legible (Statement.find_legible named criteria options_recordable) _)
  | prepareUpdate table criteria updates options =>
    obtain ⟨named, options_recordable⟩ := recordable
    exact asPrepared_legible
      (bound_legible (Statement.update_legible named criteria updates options_recordable) _)
  | prepareDelete table criteria options =>
    obtain ⟨named, options_recordable⟩ := recordable
    exact asPrepared_legible
      (bound_legible (Statement.delete_legible named criteria options_recordable) _)

end Operation

/-! ## Sessions -/

namespace Session

variable {α : Type}

/-- What an operation does in a session: what it comes to, what is then kept of the settings, and
its events with their lines. -/
structure Effect (α : Type) where
  /-- The result or the fault. -/
  outcome : Except Fault α
  /-- The settings that are kept. -/
  cache : Option Settings
  /-- The events with their lines, oldest first. -/
  written : List (Event × String)

/-- An effect is had in a session with some journal: only what is kept of the settings and the
journal change, and of the lines exactly those reach the root whose severity is not below the
threshold in force for their logger. -/
structure Effect.Had (effect : Effect α) (session : Session) (journal : Journal)
    (run : Except Fault α × Session) : Prop where
  outcome : run.1 = effect.outcome
  session : run.2 = { session with cache := effect.cache, journal := run.2.journal }
  captured : run.2.journal.captured = journal.captured ++
    (effect.written.filter fun form =>
      decide (journal.effective form.1.logger.name ≤ form.1.severity.rank)).map Prod.snd
  all_captured : journal.WritesAll →
    run.2.journal.captured = journal.captured ++ effect.written.map Prod.snd

/-- An operation has one effect in a session, whatever the journal is. -/
def Independent (session : Session) (operation : Build α) : Prop :=
  ∃ effect : Effect α,
    (∀ form ∈ effect.written, form.1.line session.clock = .ok form.2) ∧
    ∀ journal : Journal,
      effect.Had session journal (work operation { session with journal := journal })

/-- A legible operation comes to the same in a session as at its desk. -/
theorem work_fst_of_legible {operation : Build α} (legible : Legible operation)
    (session : Session) : (work operation session).1 = (operation session.desk).1 :=
  work_fst_of_takes fun event among =>
    Or.inl (legible session.desk (List.forall_mem_nil _) event among)

theorem independent_of_legible {operation : Build α} (legible : Legible operation)
    (session : Session) : session.Independent operation := by
  have writable : ∀ event ∈ (operation session.desk).2.events, event.IsWritable :=
    legible session.desk (List.forall_mem_nil _)
  obtain ⟨forms, same, written⟩ := Event.exists_forms writable session.clock
  refine ⟨⟨(operation session.desk).1, (operation session.desk).2.cache, forms⟩, written,
    fun journal => ?_⟩
  -- The desk is made from the session without its journal.
  have published := Journal.publishAll_eq_deliverAll journal written
  rw [same] at published
  have run : work operation { session with journal := journal } =
      ((operation session.desk).1, { session with
        cache := (operation session.desk).2.cache,
        journal := journal.deliverAll (journal.passing forms) }) := by
    have desk : desk { session with journal := journal } = session.desk := rfl
    simp only [work, desk, afterDesk, published]
  have captured := Journal.captured_deliverAll journal (journal.passing forms)
  have known : ∀ form ∈ forms, form.1.logger ∈ Logger.all := fun form among =>
    (writable form.1 (by rw [← same]; exact List.mem_map_of_mem among)).logger
  rw [run]
  exact ⟨rfl, rfl, captured, fun open_journal => by
    rw [captured, open_journal.passing_eq known]⟩

/-- An operation whose arguments can be recorded does one thing, whatever the journal is, and so
does the making of an options record. -/
theorem independent_of_journal (session : Session) :
    (∀ op : Operation Value, op.Recordable → session.Independent op.run) ∧
      ∀ (options : Value) (kind : OptionsKind) (statement : String),
        session.Independent (Options.coerce options kind statement) :=
  ⟨fun _ recordable => independent_of_legible (Operation.run_legible recordable) session,
    fun options kind statement =>
      independent_of_legible (Options.coerce_legible options kind statement) session⟩

end Session

end

namespace Session

theorem independent_of_journal_findAfter :
    let op : Operation Value := .prepareFind (.str "t") (Value.ofEntries [])
      (Value.ofEntries [(.str "offset", .int 5)])
    op.Recordable ∧ (default : Session).Independent op.run := by
  intro op
  have recordable : op.Recordable := by
    refine ⟨⟨"t", rfl⟩, fun _ record => (nomatch record), fun o taken _ => ?_⟩
    cases taken
    decide
  exact ⟨recordable, (independent_of_journal default).1 op recordable⟩

/-- A session whose journal has a threshold for all loggers of the package. -/
def listening (severity : Severity) : Session :=
  { (default : Session) with
    journal := (Journal.fresh default).setThreshold Logger.package.name (.rank severity.rank) }

theorem not_independent {op : Operation Value} {fault : Fault} {v : Value}
    (loud : (work op.run (listening .debug)).1 = .error fault)
    (quiet : (work op.run (listening .error)).1 = .ok v) : ¬ (default : Session).Independent op.run := by
  rintro ⟨effect, _, had⟩
  have same := (had (listening .debug).journal).outcome.trans
    (had (listening .error).journal).outcome.symm
  have loud_too : (work op.run { (default : Session) with journal := (listening .debug).journal }).1 =
      .error fault := loud
  rw [loud_too] at same
  cases same.trans quiet

/-- An offset that no journal line can hold is dropped silently, or with a fault: one of another kind
where the end of a statement alone is asked for, and one of too many digits in a find. -/
theorem journal_matters :
    let suffix : Operation Value :=
      .suffix .null .null (Value.ofEntries [(Value.ofParts [.str "a"], .int 1)])
    let find : Operation Value := .find (.str "t") (Value.ofEntries [])
      (Value.ofEntries [(.str "offset", .int Value.long)])
    (work suffix.run (listening .debug)).1 = .error (.unwritableKey .tuple) ∧
      (work suffix.run (listening .error)).1 = .ok (.str "") ∧
      (work find.run (listening .debug)).1 = .error (.unwritable .digits) ∧
      (work find.run (listening .error)).1 = .ok (.str "SELECT * FROM t WHERE 1") ∧
      ¬ (default : Session).Independent suffix.run ∧ ¬ (default : Session).Independent find.run := by
  intro suffix find
  have loud : (work suffix.run (listening .debug)).1 = .error (.unwritableKey .tuple) := rfl
  have quiet : (work suffix.run (listening .error)).1 = .ok (.str "") := rfl
  have long : (Value.int Value.long).limit? ≠ none := by
    rw [Value.limit?_long]
    exact nofun
  have loud_find : (work find.run (listening .debug)).1 = .error (.unwritable .digits) :=
    (failsWith_findAfter long (by decide)).2 find List.mem_cons_self
  have quiet_find : (work find.run (listening .error)).1 =
      .ok (.str "SELECT * FROM t WHERE 1") := rfl
  exact ⟨loud, quiet, loud_find, quiet_find, not_independent loud quiet,
    not_independent loud_find quiet_find⟩

end Session

end SqlAssembly
