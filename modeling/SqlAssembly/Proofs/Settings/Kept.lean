import SqlAssembly.Proofs.Session.Outcomes
import SqlAssembly.Proofs.Session.Planning
import SqlAssembly.Proofs.Settings.Asking
import SqlAssembly.Proofs.Settings.History

/-!
# Kept settings

A run of a session has a history of moments at which its settings were asked for
or forgotten (`Session.history`).  A step reacts to its moment, if it has one,
and otherwise leaves what is kept as it was (`Step.cache_run`); so what a run
keeps is what its history says (`Session.cache_answers`).
-/

namespace SqlAssembly

open Activity

section

variable [Machine]

namespace Step

/-- What a step does about the settings of a session, if it does something. -/
def moment? (session : Session) : Step → Option Moment
  | .perform operation _ => match (operation.mapM Session.evaluate session).1 with
    | .ok values => if values.asks then some (.asked session.environment) else none
    | .error _ => none
  | .currentSettings => some (.asked session.environment)
  | .planJournal => some (.asked session.environment)
  | .configureJournal level => match (Session.evaluate level session).1 with
    | .ok v => if Journal.levelAsks v then some (.asked session.environment) else none
    | .error _ => none
  | .forgetSettings => some .forgotten
  | _ => none

omit [Machine] in
theorem apart_cache : ApartFromStore Session.cache := fun _ _ => rfl

omit [Machine] in
theorem apart_environment : ApartFromStore Session.environment := fun _ _ => rfl

theorem cache_perform (operation : Operation Term) (name : Option String) (session : Session) :
    ((perform operation name).run session).2.cache =
      ((perform operation name).moment? session).toList.foldl Moment.react session.cache := by
  -- Making the arguments changes the store only: the operation finds what the step found.
  have cache_kept := Keeps.arguments apart_cache operation session
  have environment_kept := Keeps.arguments apart_environment operation session
  rw [moment?, run_perform]
  rcases made : operation.mapM Session.evaluate session with ⟨fault | values, middle⟩ <;>
    rw [made] at cache_kept environment_kept <;> dsimp only at cache_kept environment_kept
  · rw [bind_of_error made]
    exact cache_kept
  · rw [bind_of_ok made, Keeps.part_bind fun v =>
        (Keeps.keep apart_cache name v).bind fun _ => .pure _,
      Session.cache_work, Build.cache_of_heeds (Operation.run_heeds values)]
    simp only [Session.desk, cache_kept, environment_kept]
    cases values.asks <;> rfl

theorem cache_configureJournal (level : Term) (session : Session) :
    ((configureJournal level).run session).2.cache =
      ((configureJournal level).moment? session).toList.foldl Moment.react session.cache := by
  have cache_kept := Keeps.evaluate apart_cache level session
  have environment_kept := Keeps.evaluate apart_environment level session
  have run_eq : (configureJournal level).run = Session.evaluate level >>= configure := rfl
  rw [moment?, run_eq]
  rcases made : Session.evaluate level session with ⟨fault | v, middle⟩ <;>
    rw [made] at cache_kept environment_kept <;> dsimp only at cache_kept environment_kept
  · rw [bind_of_error made]
    exact cache_kept
  · rw [bind_of_ok made, cache_configure]
    simp only [Session.read, apply_ite Session.cache, cache_kept, environment_kept]
    cases Journal.levelAsks v <;> rfl

theorem cache_planJournal (session : Session) :
    (planJournal.run session).2.cache =
      Moment.react session.cache (.asked session.environment) :=
  cache_plan session

theorem cache_currentSettings (session : Session) :
    (currentSettings.run session).2.cache =
      Moment.react session.cache (.asked session.environment) := by
  have work_cache : (currentSettings.run session).2.cache =
      (Session.work current session).2.cache := Keeps.part_bind fun _ => .pure _
  rw [work_cache, Session.cache_work, Build.reads_current, Desk.readSettings_snd]
  rfl

omit [Machine] in
theorem keeps_cache_changeJournal (change : Journal → Journal) :
    Keeps Session.cache (Session.changeJournal change) := .modify fun _ => rfl

/-- Writing a message does not ask the settings. -/
theorem keeps_cache_write (message : Message) : Keeps Session.cache message.write :=
  (keeps_cache_changeJournal _).bind fun _ => (Keeps.event apart_cache message).bind fun _ =>
    Session.keeps_cache_work fun _ => rfl

/-- Changing a variable or a threshold does not ask the settings. -/
theorem keeps_cache_setVariable (name text : String) : Keeps Session.cache (setVariable name text).run := by
  have change : Keeps Session.cache (Session.changeEnvironment (·.set name text)) :=
    .modify fun _ => rfl
  exact ((Keeps.refuse _).bind fun _ => change).bind fun _ => .pure _

theorem keeps_cache_setThreshold (logger : String) (level : Term) :
    Keeps Session.cache (setThreshold logger level).run :=
  (Keeps.evaluate apart_cache level).bind fun _ => (keeps_cache_changeJournal _).bind fun _ =>
    (Keeps.lift _).bind fun _ => (keeps_cache_changeJournal _).bind fun _ => .pure _

/-- A step reacts to its moment, and without one it leaves what is kept as it was. -/
theorem cache_run (step : Step) (session : Session) :
    (step.run session).2.cache =
      (step.moment? session).toList.foldl Moment.react session.cache := by
  cases step with
  | perform operation name => exact cache_perform operation name session
  | currentSettings => exact cache_currentSettings session
  | forgetSettings => rfl
  | planJournal => exact cache_planJournal session
  | configureJournal level => exact cache_configureJournal level session
  | coerce kind statement options name =>
    have deaf (argument : Value) (desk : Desk) :
        (Options.coerce argument kind statement desk).2.cache = desk.cache :=
      Build.cache_of_heeds (Options.coerce_heeds argument kind statement) desk
    exact (Keeps.evaluate apart_cache options).bind (fun argument =>
      (Session.keeps_cache_work (deaf argument)).bind fun record =>
      (Keeps.keep apart_cache name _).bind fun _ => .pure _) session
  | write message =>
    exact (keeps_cache_write message).bind (fun _ => .pure _) session
  | setVariable name text =>
    exact keeps_cache_setVariable name text session
  | setThreshold logger level =>
    exact keeps_cache_setThreshold logger level session
  | unsetVariable name | removeHandlers | takeStream => rfl
  | _ => exact keeps_of_isQuiet apart_cache rfl session

theorem environment_of_moment? {step : Step} {session : Session} {environment : Environment}
    (asked : step.moment? session = some (.asked environment)) :
    environment = session.environment := by
  cases step with
  | perform operation name =>
    simp only [moment?] at asked
    split at asked
    · split at asked <;> cases asked
      rfl
    · cases asked
  | configureJournal level =>
    simp only [moment?] at asked
    split at asked
    · split at asked <;> cases asked
      rfl
    · cases asked
  | currentSettings | planJournal =>
    cases asked
    rfl
  | _ => cases asked

end Step

namespace Session

/-! ## Runs -/

/-- A session as a step finds it, with no lines captured. -/
def uncaptured (session : Session) : Session :=
  { session with journal := { session.journal with captured := [] } }

/-- What the steps of a run do about the settings, oldest first. -/
def history (session : Session) : List Step → List Moment
  | [] => []
  | step :: rest =>
    (step.moment? session.uncaptured).toList ++ history (session.answer step).2 rest

/-- A run keeps what its history says. -/
theorem cache_answers (session : Session) (steps : List Step) :
    (session.answers steps).2.cache = (session.history steps).foldl Moment.react session.cache := by
  induction steps generalizing session with
  | nil => rfl
  | cons step rest ih =>
    have first : (session.answer step).2.cache =
        (step.moment? session.uncaptured).toList.foldl Moment.react session.cache :=
      step.cache_run session.uncaptured
    show ((session.answer step).2.answers rest).2.cache = _
    rw [ih, first, history, List.foldl_append]

theorem surroundings_answers (session : Session) {steps : List Step}
    (leave : ∀ step ∈ steps, step.leavesSurroundings = true) :
    (session.answers steps).2.surroundings = session.surroundings := by
  induction steps generalizing session with
  | nil => rfl
  | cons step rest ih =>
    have first : (session.answer step).2.surroundings = session.surroundings :=
      Step.keeps_surroundings (leave step List.mem_cons_self) session.uncaptured
    show ((session.answer step).2.answers rest).2.surroundings = _
    rw [ih _ fun later among => leave later (List.mem_cons_of_mem _ among), first]

/-- While the environment stays the same, the settings are asked for in that one only. -/
theorem environment_of_mem_history (session : Session) {steps : List Step}
    (leave : ∀ step ∈ steps, step.leavesSurroundings = true) {environment : Environment}
    (asked : .asked environment ∈ session.history steps) : environment = session.environment := by
  induction steps generalizing session with
  | nil => cases asked
  | cons step rest ih =>
    rcases List.mem_append.1 asked with here | later
    · have asked : step.moment? session.uncaptured = some (.asked environment) :=
        Option.mem_toList.1 here
      exact (Step.environment_of_moment? asked).trans rfl
    · have first : (session.answer step).2.surroundings = session.surroundings :=
        Step.keeps_surroundings (leave step List.mem_cons_self) session.uncaptured
      rw [ih _ (fun later among => leave later (List.mem_cons_of_mem _ among)) later]
      exact congrArg Surroundings.environment first

/-- What asking for the settings comes to. -/
theorem outcome_currentSettings (session : Session) :
    (session.answer .currentSettings).1.outcome =
      match Settings.inForce session.cache session.environment with
      | .ok settings => .ok (.current settings)
      | .error report => .error (.invalid report) := by
  have quiet : session.desk.readSettings.2.events = [] := by
    rw [Desk.readSettings_snd]
    rfl
  have done : work Step.current session.uncaptured = _ :=
    work_of_no_events (Build.current_apply session.desk) quiet
  show ((work Step.current >>= fun settings => (pure (.current settings) : Activity Result))
    session.uncaptured).1 = _
  rw [bind_apply, done]
  show _ = match Settings.inForce session.desk.cache session.desk.environment with
    | .ok settings => _
    | .error report => _
  cases Settings.inForce session.desk.cache session.desk.environment <;> rfl

/-- A session that starts without settings keeps, wherever it gets, those of the first reading that
succeeded since they were last forgotten.  Settings in force are the kept ones, or else those of the
environment at that time; a reading that fails keeps nothing.

An operation with nothing to order by comes to one reply whatever the settings are.  Any other is
influenced only by whether the settings in force can be read and ask for strictness.  So as long as
the environment stays the same, operations come to what they would have come to at the start. -/
theorem kept_settings {start : Session} (nothing_kept : start.cache = none) (steps : List Step) :
    let reached := (start.answers steps).2
    reached.cache = Moment.firstLoaded (start.history steps) ∧
      (∀ step environment report, step.moment? reached.uncaptured = some (.asked environment) →
        Settings.load environment = .error report → reached.cache = none →
          (reached.answer step).2.cache = none) ∧
      (reached.answer .currentSettings).1.outcome =
        (match Settings.inForce reached.cache reached.environment with
          | .ok settings => .ok (.current settings)
          | .error report => .error (.invalid report)) ∧
      (∀ op : Operation Value, op.ordersNothing = true → ∃ reply : Reply Value, op.run = reply.run) ∧
      (∀ (op : Operation Value) (other : Session),
        reached.journal.SameThresholds other.journal → reached.clock = other.clock →
        reached.desk.isStrict = other.desk.isStrict →
          (work op.run reached).1 = (work op.run other).1) ∧
      ((∀ step ∈ steps, step.leavesSurroundings = true) →
        ∀ op : Operation Value, (work op.run reached).1 = (work op.run start).1) := by
  intro reached
  -- All parts but the last look at the session reached; the last compares it with the start.
  have kept : reached.cache = Moment.firstLoaded (start.history steps) := by
    rw [cache_answers, nothing_kept, Moment.foldl_react]
  refine ⟨kept, ?failing, outcome_currentSettings reached, ?nothing_to_order, ?influence, ?steady⟩
  case failing =>
    intro step environment report asked failed none_kept
    have after : (reached.answer step).2.cache =
        (step.moment? reached.uncaptured).toList.foldl Moment.react reached.cache :=
      step.cache_run reached.uncaptured
    rw [after, asked, none_kept]
    show Option.or none (Settings.load environment).toOption = none
    rw [failed]
    rfl
  case nothing_to_order =>
    intro op nothing
    have deaf := op.run_heeds
    rw [Operation.asks_of_ordersNothing nothing] at deaf
    exact deaf.reply_of_deaf
  case influence =>
    intro op other thresholds time answer
    exact op.run_heeds.work_fst_eq thresholds time fun _ => answer
  case steady =>
    intro leave op
    have same : reached.surroundings = start.surroundings := surroundings_answers start leave
    have environment : reached.environment = start.environment :=
      congrArg Surroundings.environment same
    -- What was found on the way is what the start would find.
    have in_force : reached.desk.readSettings.1 = start.desk.readSettings.1 := by
      rw [Desk.readSettings_fst, Desk.readSettings_fst]
      show Settings.inForce reached.cache reached.environment =
        Settings.inForce start.cache start.environment
      rw [kept, environment, nothing_kept]
      exact Settings.inForce_firstLoaded fun other asked =>
        environment_of_mem_history start leave asked
    exact op.run_heeds.work_fst_eq (sameThresholds_of_surroundings same)
      (congrArg Surroundings.clock same) fun _ => Desk.isStrict_congr in_force

end Session

end

namespace Session

/-- A run that asks for strictness when the settings are kept already. -/
def lateRun : List Step :=
  [.currentSettings, .setVariable "PARAM_SQL_STRICT_SORT_DIRECTION" "yes"]

theorem kept_settings_late :
    let start : Session := default
    let reached := (start.answers lateRun).2
    start.cache = none ∧
      start.history lateRun = [.asked .empty] ∧
      reached.environment = ⟨[("PARAM_SQL_STRICT_SORT_DIRECTION", "yes")], []⟩ ∧
      reached.cache = Moment.firstLoaded [.asked .empty] ∧
      (Moment.firstLoaded [.asked .empty]).map Settings.strictSortDirection = some false := by
  intro start reached
  have nothing_kept : start.cache = none := rfl
  exact ⟨nothing_kept, rfl, rfl, (kept_settings nothing_kept lateRun).1, rfl⟩

end Session

end SqlAssembly
