import SqlAssembly.Proofs.Journal.Configuring
import SqlAssembly.Proofs.Settings.Kept

/-!
# Configured journals

A run configures the journal with each step that does so and succeeds.  What for
follows from the level that the step is given and from the settings in force
(`Step.configuration?`), and the handlers for it are the result of the step.  All
other steps leave the journal as it is set up (`Step.keeps_setup`), apart from
those that meddle with it: they remove handlers or set thresholds by hand.

So the handlers of the package grow with every configuration and are never
replaced, and its threshold is that of the last one.  The root is not touched
(`Session.answers_configuredBy`).  However often the journal was configured, an
event is written once by each handler that its line comes to
(`Session.configured_run`).  A logger outside the tree of the package still
writes to the root (`Session.foreign_event_delivered`).
-/

namespace SqlAssembly

section

open Activity

variable [Machine]

namespace Session

/-- How the journal of a session is set up. -/
def setup (session : Session) : Journal.Setup := session.journal.setup

theorem keeps_setup_work {α : Type} (operation : Build α) : Keeps setup (work operation) := by
  intro session
  rw [work_snd]
  exact Journal.setup_publishAll session.clock session.journal _

omit [Machine] in
theorem setup_introduce (name : String) : Keeps setup (changeJournal (·.introduce name)) := by
  refine .modify fun session => ?_
  show (session.journal.introduce name).setup = session.journal.setup
  unfold Journal.introduce
  split <;> rfl

end Session

namespace Step

/-! ## Steps that leave the journal as it is set up -/

/-- Whether a step changes neither handlers nor thresholds. -/
def leavesSetup : Step → Bool
  | .configureJournal _ => false
  | .setThreshold _ _ => false
  | .removeHandlers => false
  | _ => true

omit [Machine] in
theorem keeps_setup_makeDirectory (p : Path) : Keeps Session.setup (makeDirectory p) := by
  refine .getThen fun session => (Keeps.part_bind fun _ => Keeps.refuse _).trans ?_
  have places : (session.journal.storage.makeDirectory p).2.places =
      session.journal.storage.places :=
    congrArg (List.map Prod.fst) (session.journal.storage.files_makeDirectory p)
  show (⟨_, _, _, _⟩ : Journal.Setup) = ⟨_, _, _, _⟩
  rw [Journal.Setup.mk.injEq]
  exact ⟨rfl, rfl, rfl, places⟩

theorem keeps_setup {step : Step} (leaves : step.leavesSetup = true) :
    Keeps Session.setup step.run := by
  have apart : ApartFromStore Session.setup := fun _ _ => rfl
  cases step with
  | configureJournal level | setThreshold logger level | removeHandlers => cases leaves
  | perform operation name =>
    rw [run_perform]
    exact (Keeps.arguments apart operation).bind fun _ => (Session.keeps_setup_work _).bind fun v =>
      (Keeps.keep apart name v).bind fun _ => .pure _
  | coerce kind statement options name =>
    exact (Keeps.evaluate apart options).bind fun _ => (Session.keeps_setup_work _).bind fun _ =>
      (Keeps.keep apart name _).bind fun _ => .pure _
  | currentSettings => exact (Session.keeps_setup_work _).bind fun _ => .pure _
  | planJournal => exact keeps_plan Session.keeps_setup_work keeps_setup_makeDirectory
  | setVariable name text =>
    have change : Keeps Session.setup (Session.changeEnvironment (·.set name text)) :=
      .modify fun _ => rfl
    exact ((Keeps.refuse _).bind fun _ => change).bind fun _ => .pure _
  | write message =>
    exact ((Session.setup_introduce _).bind fun _ => (Keeps.event apart message).bind fun _ =>
      Session.keeps_setup_work _).bind fun _ => .pure _
  | unsetVariable name | forgetSettings | takeStream => exact fun _ => rfl
  | _ => exact keeps_of_isQuiet apart rfl

/-! ## The step that configures -/

/-- What a step configures the journal for, if it does. -/
def configuration? (session : Session) : Step → Option Journal.Configuration
  | .configureJournal level => match (Session.evaluate level session).1 with
    | .ok v => (Journal.configurationFor v (Settings.inForce session.cache session.environment)
      session.environment session.clock.day).toOption
    | .error _ => none
  | _ => none

theorem configure_eq_ok {level : Value} {session after : Session} {result : Result}
    (done : configure level session = (.ok result, after)) :
    ∃ c made, Journal.configurationFor level (Settings.inForce session.cache session.environment)
        session.environment session.clock.day = .ok c ∧
      session.journal.configure c.threshold c.file = (.ok made, after.journal) ∧
      result = .configured made after.journal.handlers.length
        (after.journal.ownThreshold Logger.package.name) := by
  rw [configure_apply] at done
  dsimp only at done
  split at done
  · cases done
  · next c found =>
    split at done
    · cases done
    · next made journal configured =>
      cases done
      exact ⟨c, made, found, configured, rfl⟩

/-- A step that configures the journal and succeeds changes it by its configuration. -/
theorem configureJournal_eq_ok {level : Term} {session after : Session} {result : Result}
    (done : (configureJournal level).run session = (.ok result, after)) :
    ∃ c attached threshold, configuration? session (.configureJournal level) = some c ∧
      session.journal.ConfiguredBy [c] after.journal ∧
      result = .configured c.handlers attached threshold := by
  -- Making the level changes the store only.
  have kept : Keeps (fun session : Session =>
      (session.cache, session.environment, session.clock, session.journal))
      (Session.evaluate level) := Keeps.evaluate (fun _ _ => rfl) level
  have same := kept session
  have run_eq : (configureJournal level).run = Session.evaluate level >>= configure := rfl
  rw [run_eq, bind_apply] at done
  rw [configuration?]
  rcases made : Session.evaluate level session with ⟨fault | v, middle⟩ <;> rw [made] at done same
  · cases done
  · obtain ⟨cache, environment, clock, journal⟩ : _ ∧ _ ∧ _ ∧ _ := by simpa using same
    obtain ⟨c, handlers, found, configured, rfl⟩ := configure_eq_ok done
    rw [cache, environment, clock] at found
    rw [journal] at configured
    obtain ⟨rfl, configuredBy⟩ := Journal.configure_eq_ok configured
    refine ⟨c, _, _, ?_, configuredBy, rfl⟩
    dsimp only
    rw [found]
    rfl

/-- The handlers that a step which configures has as its result. -/
def made? (step : Step) (answer : Answer) : Option (List Handler) :=
  match step, answer.outcome with
  | .configureJournal _, .ok (.configured made _ _) => some made
  | _, _ => none

/-- Whether a step configures the journal. -/
def configures : Step → Bool
  | .configureJournal _ => true
  | _ => false

/-- Whether a step does not meddle with what was configured. -/
def leavesConfigured (step : Step) : Bool := step.leavesSetup || step.configures

end Step

namespace Session

open Step

/-- Steps that do not meddle with what was configured, of which those that configure succeed. -/
def Configures (session : Session) (steps : List Step) : Prop :=
  (∀ step ∈ steps, step.leavesConfigured = true) ∧
    ∀ done ∈ steps.zip (session.answers steps).1, done.1.configures = true →
      done.2.outcome.isOk = true

/-- What a run configures the journal for, in order. -/
def configurations (session : Session) : List Step → List Journal.Configuration
  | [] => []
  | step :: rest =>
    (step.configuration? session.uncaptured).toList ++
      configurations (session.answer step).2 rest

/-- The handlers that the steps of a run have as their results, in order. -/
def returned (session : Session) (steps : List Step) : List (List Handler) :=
  (steps.zip (session.answers steps).1).filterMap fun done => made? done.1 done.2

theorem answers_cons (session : Session) (step : Step) (rest : List Step) :
    session.answers (step :: rest) = ((session.answer step).1 ::
      ((session.answer step).2.answers rest).1, ((session.answer step).2.answers rest).2) := rfl

theorem returned_cons (session : Session) (step : Step) (rest : List Step) :
    session.returned (step :: rest) =
      (made? step (session.answer step).1).toList ++ (session.answer step).2.returned rest := by
  rw [returned, answers_cons, List.zip_cons_cons, List.filterMap_cons, returned]
  cases made? step (session.answer step).1 <;> rfl

/-- A step changes what is configured by its configuration, and has its handlers as the result. -/
theorem answer_configuredBy {session : Session} {step : Step}
    (leaves : step.leavesConfigured = true)
    (succeeds : step.configures = true → (session.answer step).1.outcome.isOk = true) :
    session.journal.ConfiguredBy (step.configuration? session.uncaptured).toList
        (session.answer step).2.journal ∧
      made? step (session.answer step).1 =
        (step.configuration? session.uncaptured).map Journal.Configuration.handlers := by
  cases configures : step.configures with
  | false =>
    have quiet : step.leavesSetup = true := by
      rw [leavesConfigured, configures, Bool.or_false] at leaves
      exact leaves
    have same : (session.answer step).2.journal.setup = session.journal.setup :=
      keeps_setup quiet session.uncaptured
    cases step with
    | configureJournal level => cases configures
    | _ => exact ⟨.of_setup same, rfl⟩
  | true =>
    cases step with
    | configureJournal level =>
      rcases run : (configureJournal level).run session.uncaptured with ⟨fault | result, after⟩
      · have failed : (session.answer (.configureJournal level)).1.outcome = .error fault :=
          congrArg Prod.fst run
        rw [failed] at succeeds
        cases succeeds rfl
      · obtain ⟨c, attached, threshold, found, configuredBy, rfl⟩ := configureJournal_eq_ok run
        have outcome : (session.answer (.configureJournal level)).1.outcome =
            .ok (.configured c.handlers attached threshold) := congrArg Prod.fst run
        have reached : (session.answer (.configureJournal level)).2 = after :=
          congrArg Prod.snd run
        have uncaptured : session.journal.ConfiguredBy [] session.uncaptured.journal :=
          .of_setup rfl
        rw [found, reached]
        refine ⟨uncaptured.trans configuredBy, ?_⟩
        simp only [made?, outcome]
        rfl
    | _ => cases configures

/-- A run changes what is configured by its configurations, and returns their handlers. -/
theorem answers_configuredBy {session : Session} {steps : List Step}
    (inScope : session.Configures steps) :
    session.journal.ConfiguredBy (session.configurations steps)
        (session.answers steps).2.journal ∧
      session.returned steps =
        (session.configurations steps).map Journal.Configuration.handlers := by
  induction steps generalizing session with
  | nil => exact ⟨.of_setup rfl, rfl⟩
  | cons step rest ih =>
    obtain ⟨leave, succeed⟩ := inScope
    obtain ⟨leaves, rest_leave⟩ := List.forall_mem_cons.1 leave
    rw [answers_cons, List.zip_cons_cons] at succeed
    obtain ⟨succeeds, rest_succeed⟩ := List.forall_mem_cons.1 succeed
    obtain ⟨here, made⟩ := answer_configuredBy leaves succeeds
    obtain ⟨later, returned_later⟩ := ih ⟨rest_leave, rest_succeed⟩
    refine ⟨here.trans later, ?_⟩
    rw [returned_cons, returned_later, made, configurations, List.map_append, Option.toList_map]

/-! ## Delivery -/

/-- What an operation does to the journal is to publish its events. -/
theorem delivered_work {α : Type} (operation : Build α) (session : Session) :
    Journal.Delivered session.clock session.journal (operation session.desk).2.events
      (work operation session).2.journal := by
  rw [work_snd]
  exact Journal.delivered_publishAll session.clock session.journal _

/-- An operation fails with the first of its events that is to be written and cannot be. -/
theorem work_fst_of_fault {α : Type} {operation : Build α} {session : Session} {fault : Fault}
    (unwritten : (operation session.desk).2.events.findSome?
      (session.journal.eventFault? session.clock) = some fault) :
    (work operation session).1 = .error fault := by
  rw [work_fst, unwritten]

/-- The session in which the logger of a message is known. -/
def introduced (session : Session) (message : Message) : Session :=
  { session with journal := session.journal.introduce message.source }

/-- The event of a message, if its fields can be made. -/
def messageEvents (session : Session) (message : Message) : List Event :=
  (message.event (session.introduced message)).1.toOption.toList

/-- What a message does to the journal, its logger known, is to publish its event. -/
theorem delivered_write (message : Message) (session : Session) :
    Journal.Delivered session.clock (session.introduced message).journal
      (session.messageEvents message) (message.write session).2.journal := by
  have kept : Keeps (fun session : Session => (session.clock, session.journal)) message.event :=
    Keeps.event (fun _ _ => rfl) message
  have same := kept (session.introduced message)
  have run_eq : message.write session =
      (message.event >>= fun event => work (Build.emit event)) (session.introduced message) := rfl
  rw [run_eq, bind_apply, messageEvents]
  rcases made : message.event (session.introduced message) with ⟨fault | event, after⟩ <;>
    rw [made] at same
  · obtain ⟨_, journal⟩ : _ ∧ _ := by simpa using same
    dsimp only
    rw [journal]
    exact Journal.delivered_nothing rfl
  · obtain ⟨clock, journal⟩ : _ ∧ _ := by simpa using same
    have delivered := delivered_work (Build.emit event) after
    rw [clock, journal] at delivered
    exact delivered

/-- A message whose event is to be written and cannot be fails. -/
theorem write_fst_of_fault {message : Message} {session : Session} {fault : Fault}
    (unwritten : (session.messageEvents message).findSome?
      ((session.introduced message).journal.eventFault? session.clock) = some fault) :
    (message.write session).1 = .error fault := by
  have kept : Keeps (fun session : Session => (session.clock, session.journal)) message.event :=
    Keeps.event (fun _ _ => rfl) message
  have same := kept (session.introduced message)
  have run_eq : message.write session =
      (message.event >>= fun event => work (Build.emit event)) (session.introduced message) := rfl
  rw [messageEvents] at unwritten
  rw [run_eq, bind_apply]
  rcases made : message.event (session.introduced message) with ⟨other | event, after⟩ <;>
    rw [made] at same unwritten
  · cases unwritten
  · obtain ⟨clock, journal⟩ : _ ∧ _ := by simpa using same
    refine work_fst_of_fault ?_
    rw [clock, journal]
    exact unwritten

/-! ## Runs -/

/-- Wherever a run gets in which configuring succeeds, the root has its handlers and its threshold of
the start.  The package has its handlers of the start and after them those that were returned, in
order: for each configuration one for the stream and, if the settings in force asked for it, one for
a file.  It has the threshold of the last configuration.

There, whatever operations and messages publish is delivered: an event that reaches the threshold in
force for its logger is written once by each handler of the root and, in the tree of the package, by
each handler of the package, as far as it reaches their own thresholds.  The first event that is to be
written and has no written form is what the operation or the message fails with. -/
theorem configured_run {start : Session} {steps : List Step} (inScope : start.Configures steps) :
    let reached := (start.answers steps).2
    reached.journal.rootHandlers = start.journal.rootHandlers ∧
      reached.journal.ownThreshold Logger.rootName = start.journal.ownThreshold Logger.rootName ∧
      reached.journal.handlers = start.journal.handlers ++ (start.returned steps).flatten ∧
      start.returned steps =
        (start.configurations steps).map Journal.Configuration.handlers ∧
      reached.journal.ownThreshold Logger.package.name =
        ((start.configurations steps).getLast?.map Journal.Configuration.threshold).getD
          (start.journal.ownThreshold Logger.package.name) ∧
      (start.journal.IsOpen → reached.journal.IsOpen) ∧
      (∀ op : Operation Value,
        Journal.Delivered reached.clock reached.journal
          (op.run reached.desk).2.events (work op.run reached).2.journal ∧
        ∀ fault, (op.run reached.desk).2.events.findSome?
          (reached.journal.eventFault? reached.clock) = some fault →
            (work op.run reached).1 = .error fault) ∧
      ∀ message : Message,
        Journal.Delivered reached.clock (reached.introduced message).journal
          (reached.messageEvents message) (message.write reached).2.journal ∧
        ∀ fault, (reached.messageEvents message).findSome?
          ((reached.introduced message).journal.eventFault? reached.clock) = some fault →
            (message.write reached).1 = .error fault := by
  intro reached
  obtain ⟨configuredBy, returned⟩ := answers_configuredBy inScope
  refine ⟨configuredBy.rootHandlers, configuredBy.others _ (by decide), ?_, returned,
    configuredBy.package, configuredBy.isOpen,
    fun op => ⟨delivered_work op.run reached, fun _ => work_fst_of_fault⟩,
    fun message => ⟨delivered_write message reached, fun _ => write_fst_of_fault⟩⟩
  rw [configuredBy.handlers, returned, List.flatMap_def]

end Session

end

namespace Session

/-- A session in which nothing was done yet, and of which nothing is known. -/
def untouched : Session := { (default : Session) with journal := Journal.fresh default }

/-- A run that configures the journal for a level, and then for the settings. -/
def configuringRun : List Step :=
  [.configureJournal (.constant (.int 10)), .configureJournal (.constant .null)]

theorem configured_run_twice :
    untouched.Configures configuringRun ∧
      untouched.configurations configuringRun = [⟨.rank 10, none⟩, ⟨.rank 20, none⟩] ∧
      (untouched.answers configuringRun).2.journal.handlers =
        [⟨.stream, .rank 10⟩, ⟨.stream, .rank 20⟩] ∧
      (untouched.answers configuringRun).2.journal.ownThreshold Logger.package.name = .rank 20 := by
  have inScope : untouched.Configures configuringRun := by constructor <;> decide +kernel
  have configurations : untouched.configurations configuringRun =
      [⟨.rank 10, none⟩, ⟨.rank 20, none⟩] := by decide +kernel
  obtain ⟨_, _, handlers, returned, threshold, _⟩ := configured_run inScope
  refine ⟨inScope, configurations, ?_, ?_⟩
  · rw [handlers, returned, configurations]
    rfl
  · rw [threshold, configurations]
    rfl

/-- An error that a logger outside the tree of the package writes reaches the root. -/
theorem foreign_event_delivered :
    let message : Message := ⟨some "other", [], [], [], .error, "x", []⟩
    (untouched.introduced message).journal.inPackage "other" = false ∧
      untouched.messageEvents message = [⟨⟨"other"⟩, .error, "x", []⟩] ∧
      ((untouched.answer (.write message)).1.lines).length = 1 := by
  intro message
  refine ⟨?_, ?_, ?_⟩
  · decide +kernel
  · rfl
  · decide +kernel

end Session

end SqlAssembly
