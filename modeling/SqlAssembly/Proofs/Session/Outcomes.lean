import SqlAssembly.Proofs.Session.Surroundings
import SqlAssembly.Proofs.Settings.Strictness

/-!
# Outcomes in sessions

An operation comes to the same in a session as at a desk, unless one of its
events is to be written and has no written form (`Session.work_fst`).

Of what is kept of the settings, and of the environment that they are read from,
nothing shows in an outcome but whether directions have to be one of the two
(`Build.Heeds.work_fst_eq`).
-/

namespace SqlAssembly

/-- The event that the settings cannot be read always has a written form. -/
theorem Clause.settingsUnavailable_isSimple (report : Report) :
    (settingsUnavailable report).IsSimple where
  logger := show Logger.clauses ∈ Logger.all by decide
  fields := List.forall_mem_cons.2 ⟨.text _, List.forall_mem_singleton.2 (.count _)⟩
  no_origin := rfl

theorem Desk.unavailable_isSimple (desk : Desk) :
    ∀ event ∈ desk.unavailable, event.IsSimple := by
  unfold unavailable
  cases desk.readSettings.1 with
  | ok settings => exact List.forall_mem_nil _
  | error report => exact List.forall_mem_singleton.2 (Clause.settingsUnavailable_isSimple report)

variable [Machine]

namespace Session

variable {α : Type}

theorem work_fst (operation : Build α) (session : Session) :
    (work operation session).1 =
      match (operation session.desk).2.events.findSome?
        (session.journal.eventFault? session.clock) with
      | some fault => .error fault
      | none => (operation session.desk).1 := by
  rw [← (Journal.publishAll_fst session.clock session.journal _).1]
  unfold work afterDesk
  rcases operation session.desk with ⟨outcome, desk⟩
  dsimp only
  rcases Journal.publishAll session.clock session.journal desk.events with ⟨_ | fault, journal⟩ <;>
    rfl

/-- Where the journal takes its events, an operation comes to the same as at its desk. -/
theorem work_fst_of_takes {operation : Build α} {session : Session}
    (takes : ∀ event ∈ (operation session.desk).2.events, session.journal.Takes event) :
    (work operation session).1 = (operation session.desk).1 := by
  rw [work_fst, List.findSome?_eq_none_iff.2 fun event among =>
    (takes event among).eventFault?_eq_none]

/-- With simple events an operation comes to the same in a session as at its desk. -/
theorem work_fst_of_isSimple {operation : Build α} {session : Session}
    (simple : ∀ event ∈ (operation session.desk).2.events, event.IsSimple) :
    (work operation session).1 = (operation session.desk).1 :=
  work_fst_of_takes fun event among => Or.inl (simple event among).isWritable

/-- An operation that succeeds in a session succeeds at its desk. -/
theorem desk_of_work {operation : Build α} {session : Session} {a : α}
    (succeeds : (work operation session).1 = .ok a) :
    ∃ after, operation session.desk = (.ok a, after) := by
  rw [work_fst] at succeeds
  split at succeeds
  · cases succeeds
  · exact ⟨_, Prod.ext succeeds rfl⟩

@[simp] theorem work_fst_pure (a : α) (session : Session) :
    (work (pure a) session).1 = .ok a :=
  work_fst_of_isSimple (List.forall_mem_nil _)

end Session

/-! ## Replies -/

/-- What a reply comes to in a session. -/
def Reply.settled {α : Type} (reply : Reply α) (session : Session) : Except Fault α :=
  match reply.events.findSome? (session.journal.eventFault? session.clock) with
  | some fault => .error fault
  | none => reply.outcome

section

variable {α : Type} {session other : Session}

theorem Reply.settled_of_isSimple {reply : Reply α}
    (simple : ∀ event ∈ reply.events, event.IsSimple) (session : Session) :
    reply.settled session = reply.outcome := by
  rw [settled, Journal.findSome?_eventFault?_of_isSimple _ _ simple]

/-- A reply comes to the same where the thresholds and the time are the same. -/
theorem Reply.settled_eq (reply : Reply α)
    (thresholds : session.journal.SameThresholds other.journal)
    (time : session.clock = other.clock) : reply.settled session = reply.settled other := by
  rw [settled, settled, thresholds.eventFault?_eq, time]

theorem Session.work_fst_run (reply : Reply α) (session : Session) :
    (work reply.run session).1 = reply.settled session := work_fst reply.run session

/-- An operation that asks the settings comes to its reply to the answer. -/
theorem Session.work_fst_asking (reply : Bool → Reply α) (session : Session) :
    (work (Clause.strictness >>= fun strict => (reply strict).run) session).1 =
      (reply session.desk.isStrict).settled session := by
  have written := Journal.findSome?_eventFault?_of_isSimple session.journal session.clock
    session.desk.unavailable_isSimple
  have no_events : session.desk.events = [] := rfl
  simp only [work_fst, Build.bind_apply, Clause.strictness_apply, Reply.run, Desk.recordAll,
    Desk.events_asked, no_events, List.nil_append, List.findSome?_append, written, Option.none_or,
    Reply.settled]

/-- Where the thresholds and the time are the same, operations come to the same, unless they ask the
settings and get another answer. -/
theorem Build.Heeds.work_fst_eq {operation : Build α} {asks : Bool}
    (heeds : Heeds operation asks) (thresholds : session.journal.SameThresholds other.journal)
    (time : session.clock = other.clock)
    (answer : asks = true → session.desk.isStrict = other.desk.isStrict) :
    (Session.work operation session).1 = (Session.work operation other).1 := by
  cases heeds with
  | deaf reply same =>
    rw [same, Session.work_fst_run, Session.work_fst_run, reply.settled_eq thresholds time]
  | asking reply same =>
    rw [same, Session.work_fst_asking, Session.work_fst_asking, answer rfl,
      (reply _).settled_eq thresholds time]

end

end SqlAssembly
