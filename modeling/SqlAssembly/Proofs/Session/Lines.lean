import SqlAssembly.Proofs.Session.Requests

/-!
# The lines of a request

Where everything is written, a request that can be made or refused leaves one
line that says so, as its last.  Before it there may be one that the settings
cannot be read and one that an offset is dropped (`Request.EndsIn.names`), and
there is each of them exactly if it is true (`Request.EndsIn.unavailable_iff`,
`Request.EndsIn.dropped_iff`).  The line that a statement was built says how many
values the prepared statement binds (`Request.length_params`).

The theorem for sessions is `Session.request_lines`.
-/

namespace SqlAssembly

section

variable [Machine]

namespace Request

/-! ## Names of events -/

variable {r : Request} {desk : Desk} {α : Type} {session : Session} {outcome : Except Fault α}
  {events : List Event}

theorem asks_eq_true_iff : r.asks = true ↔ ∃ o, r.reached? = some o ∧ o.sort.isGiven = true := by
  rw [asks, reached?]
  cases r.guarded? with
  | none => simp
  | some g =>
    simp only [Option.any_some, Option.bind_some, Statement.Guarded.asks, Option.any_eq_true]

/-- Nothing is heard but that the settings cannot be read. -/
theorem heard_cases (r : Request) (desk : Desk) :
    ((∃ o, r.reached? = some o ∧ o.sort.isGiven = true) ∧
        ∃ report, desk.readSettings.1 = .error report ∧
          r.heard desk = [Clause.settingsUnavailable report]) ∨
      ¬ ((∃ o, r.reached? = some o ∧ o.sort.isGiven = true) ∧
        ∃ report, desk.readSettings.1 = .error report) ∧ r.heard desk = [] := by
  rw [← asks_eq_true_iff, heard, Desk.unavailable]
  cases r.asks with
  | false => exact Or.inr ⟨fun asked => Bool.false_ne_true asked.1, rfl⟩
  | true =>
    cases desk.readSettings.1 with
    | ok settings =>
      refine Or.inr ⟨?_, rfl⟩
      rintro ⟨_, report, failed⟩
      cases failed
    | error report => exact Or.inl ⟨rfl, report, rfl, rfl⟩

/-- The events before the last one, by their names. -/
theorem names_before (r : Request) (desk : Desk) :
    ((r.heard desk ++ r.dropped).map Event.name).Sublist
      ["sql.settings_unavailable", "sql.offset_dropped"] := by
  have heard : ((r.heard desk).map Event.name).Sublist ["sql.settings_unavailable"] := by
    rcases r.heard_cases desk with ⟨_, report, _, heard⟩ | ⟨_, heard⟩ <;> rw [heard]
    · exact List.Sublist.refl _
    · exact List.nil_sublist _
  have dropped : (r.dropped.map Event.name).Sublist ["sql.offset_dropped"] := by
    rcases r.dropped_cases with ⟨o, _, _, _, dropped⟩ | ⟨_, dropped⟩ <;> rw [dropped]
    · exact List.Sublist.refl _
    · exact List.nil_sublist _
  rw [List.map_append]
  exact heard.append dropped

omit [Machine] in
theorem built_name (r : Request) : r.built.name = "sql.statement_built" := rfl

/-- That the settings cannot be read is heard exactly if there is an ordering to write and they
cannot be. -/
theorem heard_iff (r : Request) (desk : Desk) :
    (∃ event ∈ r.heard desk, event.name = "sql.settings_unavailable") ↔
      (∃ o, r.reached? = some o ∧ o.sort.isGiven = true) ∧
        ∃ report, desk.readSettings.1 = .error report := by
  rcases r.heard_cases desk with ⟨ordered, report, failed, heard⟩ | ⟨not_asked, heard⟩ <;>
    rw [heard]
  · exact iff_of_true ⟨_, List.mem_cons_self, rfl⟩ ⟨ordered, report, failed⟩
  · exact iff_of_false (by simp) not_asked

theorem not_heard (r : Request) (desk : Desk) :
    ¬ ∃ event ∈ r.heard desk, event.name = "sql.offset_dropped" := by
  rcases r.heard_cases desk with ⟨_, report, _, heard⟩ | ⟨_, heard⟩ <;> rw [heard] <;>
    simp [Clause.settingsUnavailable]

/-- An offset is dropped exactly if there is one to write without a limit. -/
theorem dropped_iff (r : Request) :
    (∃ event ∈ r.dropped, event.name = "sql.offset_dropped") ↔
      ∃ o, r.reached? = some o ∧ o.limit.kind = .null ∧ o.offset.kind ≠ .null := by
  rcases r.dropped_cases with ⟨o, reached, none_given, given, dropped⟩ | ⟨not_alone, dropped⟩ <;>
    rw [dropped]
  · exact iff_of_true ⟨_, List.mem_cons_self, rfl⟩ ⟨o, reached, none_given, given⟩
  · exact iff_of_false (by simp) not_alone

theorem not_dropped (r : Request) :
    ¬ ∃ event ∈ r.dropped, event.name = "sql.settings_unavailable" := by
  rcases r.dropped_cases with ⟨o, _, _, _, dropped⟩ | ⟨_, dropped⟩ <;> rw [dropped] <;>
    simp [Clause.offsetDropped]

/-- Rows whose values memory does not hold ask no settings. -/
theorem not_reached_of_unbound (unbound : r.Unbound) : r.reached? = none := by
  rw [reached?, (tooLarge_cases (tooLarge_of_unbound unbound)).1, Option.bind_none]

namespace EndsIn

variable (ends : r.EndsIn session outcome events)

include ends

/-- The last event says whether the statement was built or an argument refused.  Where the request
fails otherwise there is none, or memory does not hold the values of a statement that was built. -/
theorem names :
    (∃ before : List String, before.Sublist ["sql.settings_unavailable", "sql.offset_dropped"] ∧
      events.map Event.name =
        before ++ [if outcome.isOk then "sql.statement_built" else "sql.invalid_argument"]) ∨
    (∃ fault, outcome = .error fault ∧ events = r.heard session.desk ∧
      (r.Fails fault ∨ r.Untellable session ∧ fault = .unwritable .digits)) ∨
    (r.Unbound ∧ outcome = .error .outOfMemory ∧ events = [r.built]) := by
  cases ends with
  | untold untellable => exact Or.inr (Or.inl ⟨_, rfl, rfl, Or.inr ⟨untellable, rfl⟩⟩)
  | atDesk ending _ =>
    cases ending with
    | built a _ _ => exact Or.inl ⟨_, r.names_before session.desk, List.map_append⟩
    | refused _ _ _ =>
      have heard : ((r.heard session.desk).map Event.name).Sublist
          ((r.heard session.desk ++ r.dropped).map Event.name) :=
        (List.sublist_append_left _ _).map _
      exact Or.inl ⟨_, heard.trans (r.names_before session.desk), List.map_append⟩
    | failed cause => exact Or.inr (Or.inl ⟨_, rfl, rfl, Or.inl cause⟩)
    | unbound unbound => exact Or.inr (Or.inr ⟨unbound, rfl, rfl⟩)

/-- That the settings cannot be read is recorded exactly if it is heard. -/
theorem unavailable_iff :
    (∃ event ∈ events, event.name = "sql.settings_unavailable") ↔
      (∃ o, r.reached? = some o ∧ o.sort.isGiven = true) ∧
        ∃ report, session.desk.readSettings.1 = .error report := by
  cases ends with
  | untold _ => exact r.heard_iff session.desk
  | atDesk ending _ =>
    cases ending with
    | built a _ _ =>
      rw [← r.heard_iff]
      simp [or_and_right, exists_or, r.not_dropped, built_name]
    | refused _ _ _ =>
      rw [← r.heard_iff]
      simp [or_and_right, exists_or, InvalidArgument.event]
    | failed _ => exact r.heard_iff session.desk
    | unbound unbound => simp [not_reached_of_unbound unbound, built_name]

/-- That an offset is dropped is recorded exactly if the statement is built from a record with an
offset and without a limit. -/
theorem dropped_iff :
    (∃ event ∈ events, event.name = "sql.offset_dropped") ↔
      (∃ a, outcome = .ok a) ∧
        ∃ o, r.reached? = some o ∧ o.limit.kind = .null ∧ o.offset.kind ≠ .null := by
  cases ends with
  | untold _ => simpa using r.not_heard session.desk
  | atDesk ending _ =>
    cases ending with
    | built a _ _ =>
      rw [← r.dropped_iff]
      simp [or_and_right, exists_or, r.not_heard, built_name]
    | refused _ _ _ =>
      simpa [or_and_right, exists_or, InvalidArgument.event] using r.not_heard session.desk
    | failed _ => simpa using r.not_heard session.desk
    | unbound unbound => simp [built_name]

end EndsIn

/-! ## Values to bind -/

section

variable {sql : String} {cell : Cell} {params : List Value}

omit [Machine] in
theorem asText_ne_prepared (work : Build String) :
    (Operation.asText work desk).1 ≠ .ok (.prepared sql cell params) := by
  rcases run : work desk with ⟨fault | text, after⟩
  · rw [Operation.asText, Build.bind_of_error run]
    exact fun same => by cases same
  · rw [Operation.asText, Build.bind_of_ok run]
    exact fun same => by cases same

omit [Machine] in
theorem params_of_asPrepared {work : Build Prepared}
    (made : (Operation.asPrepared work desk).1 = .ok (.prepared sql cell params)) :
    ∃ p after, work desk = (.ok p, after) ∧ p.params = params := by
  rcases run : work desk with ⟨fault | p, after⟩
  · rw [Operation.asPrepared, Build.bind_of_error run] at made
    cases made
  · rw [Operation.asPrepared, Build.bind_of_ok run] at made
    cases made
    exact ⟨p, after, rfl, rfl⟩

omit [Machine] in
/-- What is bound are the values of the mappings. -/
theorem params_of_bound {work : Build String} {mappings values : List Value}
    (bound : Binding.values mappings = .ok values)
    (made : (Operation.asPrepared (work >>= fun sql =>
      liftM (Binding.values mappings) >>= fun params => pure ⟨sql, params⟩) desk).1 =
        .ok (.prepared sql cell params)) : params = values := by
  obtain ⟨p, after, run, rfl⟩ := params_of_asPrepared made
  obtain ⟨_, middle, _, later⟩ := Build.bind_eq_ok_iff.1 run
  obtain ⟨found, _, lifted, last⟩ := Build.bind_eq_ok_iff.1 later
  obtain ⟨rfl, _⟩ := Build.pure_eq_ok_iff.1 last
  exact Except.ok.inj ((Build.lift_eq_ok_iff.1 lifted).1.symm.trans bound)

/-- A prepared request binds as many values as the event that it is built says. -/
theorem length_params {op : Operation Value} (among : op ∈ r.operations)
    (made : (op.run desk).1 = .ok (.prepared sql cell params)) : params.length = r.bound := by
  have of_criteria (m : Mapping) : Binding.values [m.toValue] = .ok m.entries.values :=
    Binding.values_mapping _ _
  cases r <;> simp only [operations, List.mem_cons, List.not_mem_nil, or_false] at among
  case count table criteria =>
    rcases among with rfl | rfl
    · exact absurd made (asText_ne_prepared _)
    · rw [params_of_bound (of_criteria criteria) made, Entries.length_values]
      rfl
  case find table criteria options =>
    rcases among with rfl | rfl
    · exact absurd made (asText_ne_prepared _)
    · rw [params_of_bound (of_criteria criteria) made, Entries.length_values]
      rfl
  case insert table columns rowCount =>
    subst among
    exact absurd made (asText_ne_prepared _)
  case insertRows table cell rows =>
    subst among
    obtain ⟨p, after, run, rfl⟩ := params_of_asPrepared made
    have comes := Prepared.insert_outcome table cell rows desk
    rw [run] at comes
    cases comes with
    | done _ _ _ => exact length_grid _ _
  case update table criteria updates options =>
    rcases among with rfl | rfl
    · exact absurd made (asText_ne_prepared _)
    · rw [params_of_bound (values_mappings updates criteria) made, List.length_append,
        Entries.length_values, Entries.length_values]
      rfl
  case delete table criteria options =>
    rcases among with rfl | rfl
    · exact absurd made (asText_ne_prepared _)
    · rw [params_of_bound (of_criteria criteria) made, Entries.length_values]
      rfl

end

end Request

namespace Session

variable {r : Request} {op : Operation Value}

/-! ## Lines -/

/-- An operation that makes a request succeeds in a session if it does at its desk, unless an offset
cannot be told. -/
theorem isOk_work_eq_true_iff (among : op ∈ r.operations) (session : Session) :
    (work op.run session).1.isOk = true ↔
      (op.run session.desk).1.isOk = true ∧ ¬ r.Untellable session := by
  rcases endedBy_cases (Request.ended among) session with ⟨tellable, same, _⟩ |
    ⟨⟨_, untellable⟩, failed, _⟩
  · rw [same]
    exact ⟨fun succeeds => ⟨succeeds, tellable succeeds⟩, And.left⟩
  · rw [failed]
    exact iff_of_false (by exact Bool.false_ne_true) fun succeeds => succeeds.2 untellable

/-- A request that asks no settings and fails, but not with a refusal, adds no line, unless it is
built before it fails. -/
theorem captured_of_fails (among : op ∈ r.operations) {session : Session} {fault : Fault}
    (failed : (work op.run session).1 = .error fault)
    (no_refusal : ∀ error, fault ≠ .invalidArgument error) (quiet : r.asks = false)
    (unbuilt : ¬ r.Unbound) :
    (work op.run session).2.journal.captured = session.journal.captured := by
  obtain ⟨events, ends, _, journal⟩ := endedBy_published (Request.ended among) session
  have none_heard : r.heard session.desk = [] := Request.heard_of_not_asks quiet
  have none_there : events = [] := by
    rw [failed] at ends
    cases ends with
    | untold _ => exact none_heard
    | atDesk ending _ =>
      cases ending with
      | refused _ _ _ => exact absurd rfl (no_refusal _)
      | failed _ => exact none_heard
      | unbound unbound => exact absurd unbound unbuilt
  rw [journal, none_there]
  rfl

/-- Rows whose values memory does not hold add the line that their statement is built. -/
theorem captured_of_unbound {table : String} {cell : Cell} {rows : List Row}
    (unbound : (Request.insertRows table cell rows).Unbound) {session : Session}
    (open_journal : session.journal.WritesAll) :
    let r := Request.insertRows table cell rows
    ∀ op ∈ r.operations, (work op.run session).1 = .error .outOfMemory ∧
      ∃ line, r.built.line session.clock = .ok line ∧
        (work op.run session).2.journal.captured = session.journal.captured ++ [line] := by
  intro r op among
  obtain ⟨events, ends, takes, journal⟩ := endedBy_published (Request.ended among) session
  obtain ⟨lines, lined, captured⟩ :=
    Journal.captured_publishAll session.clock open_journal fun event among =>
      open_journal.isWritable (takes event among)
  have large := Request.tooLarge_of_unbound unbound
  have outcome : (work op.run session).1 = .error .outOfMemory ∧ events = [r.built] := by
    generalize (work op.run session).1 = outcome at ends
    cases ends with
    | untold untellable => exact absurd untellable (Request.tellable_of_tooLarge large session)
    | atDesk ending _ =>
      cases ending with
      | built _ held _ => exact absurd large held
      | refused _ _ held => exact absurd large held
      | failed cause =>
        cases cause with
        | memory _ unbuilt | count _ unbuilt => exact absurd unbound unbuilt
        | unwritable stopped => cases (Request.tooLarge_cases large).2.symm.trans stopped
        | changed _ change => exact absurd trivial change
      | unbound _ => exact ⟨rfl, rfl⟩
  obtain ⟨failed, rfl⟩ := outcome
  obtain ⟨line, rfl, written⟩ := List.map_eq_singleton_iff.1 lined.symm
  exact ⟨failed, line, written.symm, by rw [journal, captured]⟩

end Session

end

namespace Session

/-- A session in which every event of the package is written. -/
def writesAll : Session :=
  { (default : Session) with
    journal := (Journal.fresh default).setThreshold Logger.package.name
      (.rank Severity.debug.rank) }

theorem writesAll_journal : writesAll.journal.WritesAll := by
  intro logger among severity
  have in_force : ∀ logger ∈ Logger.all, writesAll.journal.effective logger.name = 10 := by
    decide +kernel
  rw [Journal.isEnabled, in_force logger among]
  cases severity <;> decide

/-- Four columns with nothing in them. -/
def fourNulls : Row :=
  ⟨none, [("a", .null), ("b", .null), ("c", .null), ("d", .null)], by decide⟩

/-- So many such rows that memory holds a text with their marks, but no list of their values. -/
def manyNulls : List Row := List.replicate 34359738368 fourNulls

theorem unbound_manyNulls : (Request.insertRows "t" none manyNulls).Unbound := by
  have length : manyNulls.length = 34359738368 := List.length_replicate
  have same (row : Row) (among : row ∈ manyNulls) : row = fourNulls := List.eq_of_mem_replicate among
  have columns : Prepared.fields manyNulls = ["a", "b", "c", "d"] := by
    rw [manyNulls, List.replicate_succ]
    rfl
  have insertable : Prepared.Insertable manyNulls := by
    refine ⟨fun none_there => ?_, by rw [columns]; exact List.cons_ne_nil _ _, fun row among => ?_⟩
    · rw [none_there] at length
      cases length
    · rw [same row among, columns]
      exact fun _ => Iff.rfl
  have fits : Statement.Fits "t" (Prepared.fields manyNulls) manyNulls.length := by
    rw [columns, length]
    refine ⟨by decide, by decide, ?_⟩
    rw [Statement.weight_insertText]
    decide +kernel
  refine ⟨insertable, fits, fun held => ?_⟩
  have small := held.values
  rw [columns, length] at small
  exact absurd small (by decide)

end Session

end SqlAssembly
