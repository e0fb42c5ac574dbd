import SqlAssembly.Proofs.Journal.Publishing
import SqlAssembly.Proofs.Session.Keeping

/-!
# Surroundings

The *surroundings* of a session are what an operation depends on besides its
arguments and what is kept of the settings: the environment, the time, and the
thresholds of the journal, which decide which events are to have a written form.

Most steps leave them as they are (`Step.keeps_surroundings`), those that perform
operations among them.
-/

namespace SqlAssembly

open Activity

/-- What operations depend on besides their arguments and what is kept of the settings. -/
structure Surroundings where
  /-- What settings are read from. -/
  environment : Environment
  /-- The time. -/
  clock : Clock
  /-- The loggers that are known. -/
  loggers : List String
  /-- The thresholds of loggers. -/
  thresholds : Bindings Threshold

namespace Session

variable {α : Type}

/-- The surroundings of a session. -/
def surroundings (session : Session) : Surroundings :=
  ⟨session.environment, session.clock, session.journal.loggers, session.journal.thresholds⟩

theorem sameThresholds_of_surroundings {session other : Session}
    (same : session.surroundings = other.surroundings) :
    session.journal.SameThresholds other.journal :=
  ⟨congrArg Surroundings.loggers same, congrArg Surroundings.thresholds same⟩

variable [Machine]

/-- Publishing events changes neither the environment nor the thresholds. -/
theorem keeps_surroundings_work (operation : Build α) :
    Keeps surroundings (work operation) := by
  intro session
  rw [work_snd]
  have published := (Journal.publishAll_fst session.clock session.journal
    (operation session.desk).2.events).2
  simp only [surroundings, afterDesk, published.loggers, published.thresholds]

end Session

namespace Step

/-- Whether a step changes neither the environment nor the thresholds of the journal. -/
def leavesSurroundings : Step → Bool
  | .setVariable _ _ => false
  | .unsetVariable _ => false
  | .configureJournal _ => false
  | .setThreshold _ _ => false
  | .write _ => false
  | _ => true

variable [Machine]

theorem keeps_surroundings {step : Step} (leaves : step.leavesSurroundings = true) :
    Keeps Session.surroundings step.run := by
  have apart : ApartFromStore Session.surroundings := fun _ _ => rfl
  cases step with
  | setVariable name text => cases leaves
  | unsetVariable name => cases leaves
  | configureJournal level => cases leaves
  | setThreshold logger level => cases leaves
  | write message => cases leaves
  | perform operation name =>
    rw [run_perform]
    exact (Keeps.arguments apart operation).bind fun _ =>
      (Session.keeps_surroundings_work _).bind fun v =>
      (Keeps.keep apart name v).bind fun _ => .pure _
  | coerce kind statement options name =>
    exact (Keeps.evaluate apart options).bind fun _ =>
      (Session.keeps_surroundings_work _).bind fun _ =>
      (Keeps.keep apart name _).bind fun _ => .pure _
  | currentSettings => exact (Session.keeps_surroundings_work _).bind fun _ => .pure _
  | planJournal =>
    exact keeps_plan Session.keeps_surroundings_work (keeps_makeDirectory fun _ _ => rfl)
  | forgetSettings | removeHandlers | takeStream => exact fun _ => rfl
  | _ => exact keeps_of_isQuiet apart rfl

end Step

end SqlAssembly
