import SqlAssembly.Proofs.Session.Outcomes
import SqlAssembly.Proofs.Statement.Ending
import SqlAssembly.Proofs.Value.Limits

/-!
# Requests in sessions

The events of a request have a written form, but for the one that an offset is
dropped, if the offset has too many digits.  Where that event is to be written, it
ends the request (`Request.Untellable`).  No session changes anything else of what
a request comes to: it succeeds, or it is refused for one of a few arguments,
unless it is too much for the machine or what is in an options record was changed
(`Session.refusals_closed`).
-/

namespace SqlAssembly

section

variable [Machine]

/-- A number of rows has a form in journal lines, if it has a text. -/
theorem Options.IsCount.isWritable {v : Value} (count : IsCount v) (free : v.limit? = none) :
    v.IsWritable := by
  rcases count with rfl | ⟨n, rfl⟩
  · exact ⟨"null", Value.json_null⟩
  · rw [Value.limit?_int] at free
    exact ⟨toString n, by rw [Value.json_int, free]; rfl⟩

theorem Clause.offsetDropped_isWritable {offset : Value} (writable : offset.IsWritable) :
    (offsetDropped offset).IsWritable where
  logger := show Logger.clauses ∈ Logger.all by decide
  fields := List.forall_mem_cons.2
    ⟨writable, List.forall_mem_singleton.2 (Detail.IsSimple.text _).isWritable⟩
  no_origin := rfl

namespace Request

variable {r : Request} {desk : Desk}

/-! ## Written forms -/

omit [Machine] in
theorem event_isSimple (error : InvalidArgument) {logger : Logger} (known : logger ∈ Logger.all) :
    (error.event logger []).IsSimple where
  logger := known
  fields := by
    intro field among
    simp only [InvalidArgument.event, InvalidArgument.fields, Bindings.details, List.nil_append,
      List.map_cons, List.map_nil, List.mem_cons, List.not_mem_nil, or_false] at among
    rcases among with rfl | rfl | rfl | rfl <;> exact .text _
  no_origin := rfl

omit [Machine] in
theorem logger_mem_all (r : Request) : r.logger ∈ Logger.all := by
  cases r <;> simp [Request.logger, Logger.all]

omit [Machine] in
theorem built_isSimple (r : Request) : r.built.IsSimple where
  logger := r.logger_mem_all
  fields := by
    have texts : Event.SimpleFields
        [("statement", .value (.str r.statement)), ("table", .value (.str r.table))] :=
      List.forall_mem_cons.2 ⟨.text _, List.forall_mem_singleton.2 (.text _)⟩
    have rows : Event.SimpleFields (r.rows?.toList.map fun n => ("rows", .count n)) := by
      cases r.rows? with
      | none => exact List.forall_mem_nil _
      | some n => exact List.forall_mem_singleton.2 (.count _)
    have bound : Event.SimpleFields (Statement.placeholderCount r.bound) :=
      List.forall_mem_singleton.2 (.count _)
    exact List.forall_mem_append.2 ⟨texts, List.forall_mem_append.2 ⟨rows, bound⟩⟩
  no_origin := by
    rw [built]
    cases r.rows? <;> rfl

theorem guarded?_eq_some {g : Statement.Guarded} (comes : r.guarded? = some g) :
    ∃ options : Options.Argument, g.options = options.value := by
  cases r with
  | find table criteria options | delete table criteria options =>
    cases comes
    exact ⟨options, rfl⟩
  | update table criteria updates options =>
    simp only [guarded?] at comes
    split at comes
    · cases comes
    · cases comes
      exact ⟨options, rfl⟩
  | _ => cases comes

theorem heard_isWritable (r : Request) (desk : Desk) :
    ∀ event ∈ r.heard desk, event.IsWritable := by
  unfold heard
  split
  · exact fun event among => (desk.unavailable_isSimple event among).isWritable
  · exact List.forall_mem_nil _

theorem dropped_eq (r : Request) :
    r.dropped = r.reached?.elim [] fun o => Clause.droppedOffset o.limit o.offset := by
  rw [dropped, reached?]
  cases r.guarded? with
  | none => rfl
  | some g =>
    show g.droppedOffset = g.reached?.elim [] _
    unfold Statement.Guarded.droppedOffset
    cases g.reached? <;> rfl

/-- Nothing is dropped but an offset without a limit. -/
theorem dropped_cases (r : Request) :
    (∃ o, r.reached? = some o ∧ o.limit.kind = .null ∧ o.offset.kind ≠ .null ∧
        r.dropped = [Clause.offsetDropped o.offset]) ∨
      (¬ ∃ o, r.reached? = some o ∧ o.limit.kind = .null ∧ o.offset.kind ≠ .null) ∧
        r.dropped = [] := by
  rw [dropped_eq]
  cases r.reached? with
  | none =>
    refine Or.inr ⟨?_, rfl⟩
    rintro ⟨o, reached, _⟩
    cases reached
  | some o =>
    rw [Option.elim_some, Clause.droppedOffset]
    by_cases alone : o.limit.kind = .null ∧ o.offset.kind ≠ .null
    · exact Or.inl ⟨o, rfl, alone.1, alone.2, if_pos alone⟩
    · refine Or.inr ⟨?_, if_neg alone⟩
      rintro ⟨_, ⟨⟩, given⟩
      exact alone given

/-- The offset of a record that is reached is a number of rows. -/
theorem isCount_of_reached? {o : Options} (reached : r.reached? = some o) :
    Options.IsCount o.offset := by
  obtain ⟨g, comes, reached⟩ := Option.bind_eq_some_iff.1 reached
  obtain ⟨options, given⟩ := guarded?_eq_some comes
  exact (wellMade_of_record? given (Statement.Guarded.record?_of_reached? reached)).offset

/-- The event that an offset without a text is dropped has no line. -/
theorem line_offsetDropped {offset : Value} (count : Options.IsCount offset)
    (stopped : offset.limit? ≠ none) (clock : Clock) :
    (Clause.offsetDropped offset).line clock = .error (.unwritable .digits) := by
  rcases count with rfl | ⟨n, rfl⟩
  · exact absurd Value.limit?_null stopped
  · obtain ⟨limit, found⟩ := Option.ne_none_iff_exists'.1 stopped
    rw [Value.limit?_int] at found
    obtain rfl := Value.digitLimit?_eq_some found
    have unwritten : Event.form ("offset", .value (.int n)) = .error (.unwritable .digits) := by
      rw [Event.form, Detail.json, Value.json_int, found]
      rfl
    rw [Event.line_of_no_origin rfl]
    show ((("offset", .value (.int n)) :: _ : Bindings Detail).mapM Event.form >>= _) = _
    rw [List.mapM_cons, unwritten]
    rfl

/-- A request drops an offset whose event is to be written but has no line. -/
def Untellable (r : Request) (session : Session) : Prop :=
  session.journal.isEnabled Logger.clauses.name .warning = true ∧
    ∃ o, r.reached? = some o ∧ o.limit.kind = .null ∧ o.offset.limit? ≠ none

/-- Otherwise the journal takes the event, if there is one. -/
theorem takes_dropped {session : Session} (tellable : ¬ r.Untellable session) :
    ∀ event ∈ r.dropped, session.journal.Takes event := by
  rcases r.dropped_cases with ⟨o, reached, alone, _, dropped⟩ | ⟨_, none_dropped⟩
  · rw [dropped]
    refine List.forall_mem_singleton.2 ?_
    by_cases free : o.offset.limit? = none
    · exact Or.inl
        (Clause.offsetDropped_isWritable ((isCount_of_reached? reached).isWritable free))
    · have disabled : session.journal.isEnabled Logger.clauses.name .warning = false :=
        Bool.eq_false_iff.2 fun enabled => tellable ⟨enabled, o, reached, alone, free⟩
      exact Or.inr ⟨show Logger.clauses ∈ Logger.all by decide, disabled⟩
  · rw [none_dropped]
    exact List.forall_mem_nil _

theorem dropped_of_untellable {session : Session} (untellable : r.Untellable session) :
    ∃ event, r.dropped = [event] ∧
      session.journal.eventFault? session.clock event = some (.unwritable .digits) := by
  obtain ⟨enabled, o, reached, alone, stopped⟩ := untellable
  have given : o.offset.kind ≠ .null := by
    rcases isCount_of_reached? reached with null | ⟨n, number⟩
    · exact absurd (by rw [null, Value.limit?_null]) stopped
    · rw [number]
      exact nofun
  refine ⟨_, by rw [dropped_eq, reached, Option.elim_some, Clause.droppedOffset,
    if_pos ⟨alone, given⟩], ?_⟩
  have unwritten := line_offsetDropped (isCount_of_reached? reached) stopped session.clock
  show (if session.journal.isEnabled Logger.clauses.name .warning = true then _ else _) = _
  rw [if_pos enabled, unwritten]

/-- Where a request drops an offset, all that it writes has a text. -/
theorem limit?_of_untellable {session : Session} (untellable : r.Untellable session) :
    r.limit? = none := by
  obtain ⟨_, o, reached, alone, _⟩ := untellable
  obtain ⟨g, guarded, reached⟩ := Option.bind_eq_some_iff.1 reached
  obtain ⟨n, names, criteria, options, comes⟩ := exists_comesTo guarded
  rw [comes.limit?_eq reached, Clause.window, if_pos alone, List.findSome?_nil]

/-! ## Too large requests -/

theorem tooLarge_of_unbound (unbound : r.Unbound) : r.TooLarge := by
  cases r with
  | insertRows table cell rows => exact ⟨unbound.1, unbound.2.2⟩
  | _ => cases unbound

/-- An insert that is too large for memory has no options, and all that it writes has a text. -/
theorem tooLarge_cases (large : r.TooLarge) : r.guarded? = none ∧ r.limit? = none := by
  cases r with
  | insert table columns rowCount =>
    obtain ⟨_, n, counted, _⟩ := large
    refine ⟨rfl, ?_⟩
    have named : (insert table columns rowCount).named = [] := if_pos (by rw [counted]; rfl)
    rw [limit?, named]
    rfl
  | insertRows table cell rows => exact ⟨rfl, rfl⟩
  | _ => cases large

theorem tellable_of_tooLarge (large : r.TooLarge) (session : Session) :
    ¬ r.Untellable session := by
  rintro ⟨_, o, reached, _⟩
  rw [reached?, (tooLarge_cases large).1] at reached
  cases reached

/-! ## Outcomes -/

section

variable {α : Type} {session : Session} {outcome : Except Fault α} {events : List Event}

/-- How a request ends in a session, and the events that are published there. -/
inductive EndsIn (r : Request) (session : Session) : Except Fault α → List Event → Prop
  /-- It ends as at its desk. -/
  | atDesk {outcome : Except Fault α} {events : List Event}
    (ending : r.Ending session.desk outcome events)
    (tellable : outcome.isOk = true → ¬ r.Untellable session) : EndsIn r session outcome events
  /-- It ends with the event that an offset is dropped. -/
  | untold (untellable : r.Untellable session) :
    EndsIn r session (.error (.unwritable .digits)) (r.heard session.desk)

/-- A journal takes the events of a request, unless it is built where an offset cannot be told. -/
theorem Ending.takes (ending : r.Ending desk outcome events)
    (tellable : outcome.isOk = true → ¬ r.Untellable session) :
    ∀ event ∈ events, session.journal.Takes event := by
  have heard : ∀ event ∈ r.heard desk, session.journal.Takes event := fun event among =>
    Or.inl (r.heard_isWritable desk event among)
  have built : session.journal.Takes r.built := Or.inl r.built_isSimple.isWritable
  cases ending with
  | built a _ _ =>
    exact List.forall_mem_append.2 ⟨List.forall_mem_append.2 ⟨heard, takes_dropped (tellable rfl)⟩,
      List.forall_mem_singleton.2 built⟩
  | refused _ known _ =>
    exact List.forall_mem_append.2
      ⟨heard, List.forall_mem_singleton.2 (Or.inl (event_isSimple _ known).isWritable)⟩
  | failed _ => exact heard
  | unbound _ => exact List.forall_mem_singleton.2 built

/-- There, the events are published up to that of the offset. -/
theorem Ending.untold {a : α} (ending : r.Ending desk (.ok a) events)
    (untellable : r.Untellable session) :
    Journal.publishAll session.clock session.journal events =
      (some (.unwritable .digits),
        (Journal.publishAll session.clock session.journal (r.heard desk)).2) := by
  obtain ⟨event, dropped, unwritten⟩ := dropped_of_untellable untellable
  cases ending with
  | built a _ _ =>
    rw [dropped, List.append_assoc]
    exact Journal.publishAll_of_eventFault? _ (Journal.findSome?_eventFault?_of_isWritable _ _
      (r.heard_isWritable desk)) unwritten _

/-- What a request with options as they were made comes to in a session. -/
inductive ComesOut (r : Request) (session : Session) : Except Fault α → Prop
  /-- It succeeds. -/
  | succeeds (a : α) (held : ¬ r.TooLarge) (free : r.limit? = none)
    (tellable : ¬ r.Untellable session) : ComesOut r session (.ok a)
  /-- An argument is refused. -/
  | refused {error : InvalidArgument} (listed : (error.statement, error.argument) ∈ r.refusals)
    (held : ¬ r.TooLarge) : ComesOut r session (.error (.invalidArgument error))
  /-- Memory does not hold it. -/
  | large {fault : Fault} (large : r.TooLarge)
    (by_size : fault = .outOfMemory ∨ fault = .repetitionTooLarge) : ComesOut r session (.error fault)
  /-- Something in it has no text. -/
  | unwritable {limit : Value.WritingLimit} (stopped : r.limit? = some limit) :
    ComesOut r session (.error (.unwritable limit))
  /-- An offset is dropped that has no text. -/
  | untold (untellable : r.Untellable session) : ComesOut r session (.error (.unwritable .digits))

theorem EndsIn.comesOut (ends : r.EndsIn session outcome events) (unchanged : r.Unchanged) :
    r.ComesOut session outcome := by
  cases ends with
  | untold untellable => exact .untold untellable
  | atDesk ending tellable =>
    cases ending with
    | built a held free => exact .succeeds a held free (tellable rfl)
    | refused listed _ held => exact .refused listed held
    | unbound large => exact .large (tooLarge_of_unbound large) (Or.inl rfl)
    | failed cause =>
      cases cause with
      | memory large _ => exact .large large (Or.inl rfl)
      | count large _ => exact .large large (Or.inr rfl)
      | unwritable stopped => exact .unwritable stopped
      | changed _ change => exact absurd unchanged change

namespace ComesOut

variable (comes : r.ComesOut session outcome)

include comes

/-- A request that memory holds and that has a text succeeds or is refused. -/
theorem of_free (held : ¬ r.TooLarge) (free : r.limit? = none)
    (tellable : ¬ r.Untellable session) : (∃ a, outcome = .ok a) ∨
      ∃ error, outcome = .error (.invalidArgument error) ∧
        (error.statement, error.argument) ∈ r.refusals := by
  cases comes with
  | succeeds a _ _ _ => exact Or.inl ⟨a, rfl⟩
  | refused listed _ => exact Or.inr ⟨_, rfl, listed⟩
  | large large _ => exact absurd large held
  | unwritable stopped => cases free.symm.trans stopped
  | untold untellable => exact absurd untellable tellable

/-- One that memory does not hold fails with that. -/
theorem of_large (large : r.TooLarge) :
    outcome = .error .outOfMemory ∨ outcome = .error .repetitionTooLarge := by
  cases comes with
  | succeeds _ held _ _ | refused _ held => exact absurd large held
  | large _ by_size => exact by_size.imp (congrArg _) (congrArg _)
  | unwritable stopped => cases (tooLarge_cases large).2.symm.trans stopped
  | untold untellable => exact absurd untellable (tellable_of_tooLarge large session)

/-- One with something that has no text fails with that, unless it is refused. -/
theorem of_limit {limit : Value.WritingLimit} (stopped : r.limit? = some limit) :
    outcome = .error (.unwritable limit) ∨ ∃ error, outcome = .error (.invalidArgument error) ∧
      (error.statement, error.argument) ∈ r.refusals := by
  cases comes with
  | succeeds _ _ free _ => cases free.symm.trans stopped
  | refused listed _ => exact Or.inr ⟨_, rfl, listed⟩
  | large large _ => cases (tooLarge_cases large).2.symm.trans stopped
  | unwritable found =>
    obtain rfl := Option.some.inj (found.symm.trans stopped)
    exact Or.inl rfl
  | untold untellable => cases (limit?_of_untellable untellable).symm.trans stopped

/-- So does one that drops an offset which is to be told and has no text. -/
theorem of_untellable (untellable : r.Untellable session) :
    outcome = .error (.unwritable .digits) ∨ ∃ error, outcome = .error (.invalidArgument error) ∧
      (error.statement, error.argument) ∈ r.refusals := by
  cases comes with
  | succeeds _ _ _ tellable => exact absurd untellable tellable
  | refused listed _ => exact Or.inr ⟨_, rfl, listed⟩
  | large large _ => exact absurd untellable (tellable_of_tooLarge large session)
  | unwritable stopped => cases (limit?_of_untellable untellable).symm.trans stopped
  | untold _ => exact Or.inl rfl

end ComesOut

end

end Request

namespace Session

variable {r : Request} {op : Operation Value}

/-- A refusal is the outcome in every session, since its event has a written form. -/
theorem work_fst_refuse {α : Type} {logger : Logger} (known : logger ∈ Logger.all)
    (error : InvalidArgument) (session : Session) :
    (work (Build.refuse logger [] error : Build α) session).1 =
      .error (.invalidArgument error) :=
  work_fst_of_isSimple (List.forall_mem_singleton.2 (Request.event_isSimple error known))

/-- In a session a request ends as at its desk with all its events published, unless it is built
there with an offset that cannot be told. -/
theorem endedBy_cases {α : Type} {operation : Build α} (ended : r.EndedBy operation)
    (session : Session) :
    let run := operation session.desk
    let done := work operation session
    ((run.1.isOk = true → ¬ r.Untellable session) ∧ done.1 = run.1 ∧
      r.EndsIn session done.1 run.2.events ∧
      ∀ event ∈ run.2.events, session.journal.Takes event) ∨
    (run.1.isOk = true ∧ r.Untellable session) ∧ done.1 = .error (.unwritable .digits) ∧
      done.2.journal = (Journal.publishAll session.clock session.journal (r.heard session.desk)).2 := by
  intro run done
  obtain ⟨events, added, ending⟩ := ended session.desk
  have ending : r.Ending session.desk run.1 run.2.events := added ▸ ending
  by_cases untold : run.1.isOk = true ∧ r.Untellable session
  · refine Or.inr ⟨untold, ?_⟩
    obtain ⟨succeeds, untellable⟩ := untold
    cases outcome : run.1 with
    | error fault =>
      rw [outcome] at succeeds
      cases succeeds
    | ok a =>
      rw [outcome] at ending
      have published := ending.untold untellable
      constructor
      · show (work operation session).1 = _
        rw [work_fst, ← (Journal.publishAll_fst _ _ _).1, published]
      · show (work operation session).2.journal = _
        rw [work_snd, afterDesk, published]
  · have tellable : run.1.isOk = true → ¬ r.Untellable session := fun succeeds untellable =>
      untold ⟨succeeds, untellable⟩
    have takes := ending.takes tellable
    have same : done.1 = run.1 := work_fst_of_takes takes
    exact Or.inl ⟨tellable, same, by rw [same]; exact .atDesk ending tellable, takes⟩

/-- In a session a request ends with some events published. -/
theorem endedBy_published {α : Type} {operation : Build α} (ended : r.EndedBy operation)
    (session : Session) :
    ∃ events, r.EndsIn session (work operation session).1 events ∧
      (∀ event ∈ events, session.journal.Takes event) ∧
      (work operation session).2.journal =
        (Journal.publishAll session.clock session.journal events).2 := by
  rcases endedBy_cases ended session with ⟨_, _, ends, takes⟩ | ⟨⟨_, untellable⟩, failed, told⟩
  · exact ⟨_, ends, takes, by rw [work_snd, afterDesk]⟩
  · refine ⟨_, by rw [failed]; exact .untold untellable, fun event among => ?_, told⟩
    exact Or.inl (r.heard_isWritable _ event among)

theorem endedBy_comesOut {α : Type} {operation : Build α} (ended : r.EndedBy operation)
    (unchanged : r.Unchanged) (session : Session) : r.ComesOut session (work operation session).1 := by
  obtain ⟨events, ends, _⟩ := endedBy_published ended session
  exact ends.comesOut unchanged

/-! ## Closed outcomes -/

/-- Whichever operation makes a request, with options as they were made, it ends with a fault. -/
def FailsWith (session : Session) (r : Request) (fault : Fault) : Prop :=
  r.Unchanged ∧ ∀ op ∈ r.operations, (work op.run session).1 = .error fault

/-- A count of the rows with nothing under a key. -/
def countWith (key : Value) : Request := .count "t" ⟨none, [(key, .null)]⟩

theorem failsWith_countWith {key : Value} {limit : Value.WritingLimit} (stopped : key.limit? = some limit)
    (session : Session) : FailsWith session (countWith key) (.unwritable limit) := by
  have found : (countWith key).limit? = some limit :=
    (List.findSome?_singleton).trans stopped
  refine ⟨trivial, fun op among => ?_⟩
  rcases (endedBy_comesOut (Request.ended among) trivial session).of_limit found with failed | ⟨error, _, listed⟩
  · exact failed
  · cases listed

/-- A find of everything after a row. -/
def findAfter (offset : Nat) : Request :=
  .find "t" ⟨none, []⟩
    ⟨Value.ofEntries [(.str "offset", .int offset)], fun _ record => nomatch record⟩

theorem failsWith_findAfter {offset : Nat} (stopped : (Value.int offset).limit? ≠ none)
    {session : Session} (enabled : session.journal.isEnabled Logger.clauses.name .warning = true) :
    FailsWith session (findAfter offset) (.unwritable .digits) := by
  have untellable : (findAfter offset).Untellable session := ⟨enabled, _, rfl, rfl, stopped⟩
  refine ⟨fun o record => (nomatch record), fun op among => ?_⟩
  rcases endedBy_cases (Request.ended among) session with ⟨tellable, _⟩ | ⟨_, failed, _⟩
  · refine absurd untellable (tellable ?_)
    simp only [Request.operations, findAfter, List.mem_cons, List.not_mem_nil, or_false] at among
    rcases among with rfl | rfl <;> rfl
  · exact failed

end Session

end

namespace Session

/-- An insert of a number of rows into a table. -/
def insertMany (columns : List String) (rowCount : Int) : Request :=
  .insert "t" (.list none columns) (.int rowCount)

end Session

end SqlAssembly
