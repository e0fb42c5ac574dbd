import Mathlib.Data.List.DropRight
import SqlAssembly.Proofs.Settings.Strictness
import SqlAssembly.Session.Step

/-!
# Histories of settings

What is kept of the settings follows from two kinds of *moments*: the settings
were asked for in some environment, or they were forgotten.  After a history of
such moments the settings of the first reading that succeeded since they were
last forgotten are kept, and nothing if there was none (`Moment.firstLoaded`).
Whoever reacts to one moment after the other comes to the same without looking
back (`Moment.foldl_react`).

Asking for the settings is all that operations do about them.  Some ask more
than once, but since a reading is kept or changes nothing, one moment stands for
all of them (`Build.Reads`).
-/

namespace SqlAssembly

/-! ## Histories -/

/-- What happens to the settings of a session. -/
inductive Moment
  /-- They are asked for in an environment. -/
  | asked (environment : Environment)
  /-- They are forgotten. -/
  | forgotten
  deriving DecidableEq, Repr

namespace Moment

/-- The settings that a moment finds, if it looks for some and they can be read. -/
def loaded? : Moment → Option Settings
  | .asked environment => (Settings.load environment).toOption
  | .forgotten => none

/-- The moments since the settings were last forgotten. -/
def sinceForgotten (history : List Moment) : List Moment :=
  history.rtakeWhile fun moment => decide (moment ≠ .forgotten)

/-- The settings of the first reading that succeeded since they were last forgotten. -/
def firstLoaded (history : List Moment) : Option Settings :=
  (sinceForgotten history).findSome? loaded?

/-- What is kept after a moment, given what was kept before. -/
def react (kept : Option Settings) : Moment → Option Settings
  | .asked environment => kept.or (Settings.load environment).toOption
  | .forgotten => none

theorem firstLoaded_concat (history : List Moment) (moment : Moment) :
    firstLoaded (history ++ [moment]) = react (firstLoaded history) moment := by
  cases moment with
  | forgotten =>
    rw [firstLoaded, sinceForgotten, List.rtakeWhile_concat_neg _ _ _ (by simp)]
    rfl
  | asked environment =>
    rw [firstLoaded, sinceForgotten, List.rtakeWhile_concat_pos _ _ _ (by simp),
      List.findSome?_append]
    simp [react, loaded?, firstLoaded, sinceForgotten]

/-- Reacting to one moment after the other leaves the settings that were read first. -/
theorem foldl_react (history : List Moment) : history.foldl react none = firstLoaded history := by
  induction history using List.reverseRecOn with
  | nil => rfl
  | append_singleton history moment ih =>
    rw [List.foldl_append, ih, firstLoaded_concat]
    rfl

end Moment

/-- The settings in force: those that are kept, or else those of the environment. -/
def Settings.inForce (kept : Option Settings) (environment : Environment) :
    Except Report Settings :=
  match kept with
  | some settings => .ok settings
  | none => load environment

/-- Where all settings were asked for in one environment, those in force are of that one. -/
theorem Settings.inForce_firstLoaded {history : List Moment} {environment : Environment}
    (steady : ∀ other, .asked other ∈ history → other = environment) :
    inForce (Moment.firstLoaded history) environment = load environment := by
  cases loaded : Moment.firstLoaded history with
  | none => rfl
  | some settings =>
    -- What was found was read in an environment of the history, which is the one at hand.
    obtain ⟨moment, since, found⟩ := List.exists_of_findSome?_eq_some loaded
    have among : moment ∈ history := (List.rtakeWhile_suffix _ history).subset since
    cases moment with
    | forgotten => cases found
    | asked other =>
      obtain rfl := steady other among
      simp only [Moment.loaded?] at found
      cases read : load other with
      | error report => simp [read, Except.toOption] at found
      | ok current =>
        simp only [read, Except.toOption, Option.some.injEq] at found
        rw [inForce, found]

/-! ## Readings at a desk -/

namespace Desk

theorem readSettings_fst (desk : Desk) :
    desk.readSettings.1 = Settings.inForce desk.cache desk.environment := by
  unfold readSettings Settings.inForce
  cases desk.cache with
  | some settings => rfl
  | none => cases Settings.load desk.environment <;> rfl

/-- Reading once more finds the same and changes nothing. -/
theorem readSettings_readSettings (desk : Desk) :
    desk.readSettings.2.readSettings.2 = desk.readSettings.2 := by
  obtain ⟨environment, cache, events⟩ := desk
  cases cache with
  | some settings => rfl
  | none =>
    simp only [readSettings_snd]
    cases Settings.load environment <;> rfl

theorem isStrict_congr {desk other : Desk} (same : desk.readSettings.1 = other.readSettings.1) :
    desk.isStrict = other.isStrict := by
  rw [isStrict, isStrict, same]

end Desk

namespace Build

variable {α β : Type} {asks : Bool}

theorem cache_of_heeds {work : Build α} (heeds : Heeds work asks) (desk : Desk) :
    (work desk).2.cache =
      if asks then Moment.react desk.cache (.asked desk.environment) else desk.cache := by
  cases heeds with
  | deaf reply same => rw [same]; rfl
  | asking reply same =>
    rw [same, bind_apply, Clause.strictness_apply]
    exact desk.cache_asked

/-- An operation that reads the settings, whatever else it looks at, and changes nothing. -/
def Reads (work : Build α) : Prop := ∀ desk, (work desk).2 = desk.readSettings.2

theorem Reads.bind {first : Build α} {next : α → Build β} (reads : Reads first)
    (rest : ∀ a, Reads (next a) ∨ ∀ desk, (next a desk).2 = desk) : Reads (first >>= next) := by
  intro desk
  rw [bind_apply]
  have read := reads desk
  generalize first desk = run at read
  rcases run with ⟨fault | a, after⟩
  · exact read
  -- A second reading finds what the first one kept, so that the desk stays where it is.
  · obtain rfl : after = desk.readSettings.2 := read
    rcases rest a with reads_again | quiet
    · exact (reads_again _).trans desk.readSettings_readSettings
    · exact quiet _

theorem reads_settings : Reads settings := fun _ => rfl

theorem current_apply (desk : Desk) :
    Step.current desk = ((match Settings.inForce desk.cache desk.environment with
      | .ok settings => .ok settings
      | .error report => .error (.invalid report)), desk.readSettings.2) := by
  rw [← desk.readSettings_fst, Step.current, bind_apply]
  simp only [settings]
  cases desk.readSettings.1 <;> rfl

theorem reads_current : Reads Step.current := fun desk => congrArg Prod.snd (current_apply desk)

end Build

namespace Journal

open Build (Reads)

theorem reads_plannedLevel : Reads plannedLevel := by
  refine Build.reads_settings.bind fun found => Or.inr fun desk => ?_
  cases found <;> rfl

theorem reads_plannedToFile : Reads plannedToFile := by
  refine Build.reads_settings.bind fun found => Or.inr fun desk => ?_
  cases found <;> rfl

theorem reads_plannedPath (day : String) : Reads (plannedPath day) := by
  refine Build.reads_settings.bind fun found => Or.inr fun desk => ?_
  cases found <;> rfl

variable [Machine]

/-- Without a level the settings are read for one. -/
theorem reads_chosenLevel {level : Value} (no_level : level.kind = .null) :
    Reads (chosenLevel level) := by
  have same : chosenLevel level = plannedLevel >>= fun planned =>
      (liftM (Threshold.ofNamed planned) : Build Threshold) := if_pos no_level
  rw [same]
  exact reads_plannedLevel.bind fun _ => Or.inr fun _ => rfl

/-- A level that is no threshold is refused before the settings are read. -/
def levelAsks (level : Value) : Bool :=
  decide (level.kind = .null) || (Threshold.ofValue level).isOk

end Journal

/-! ## Readings in sessions -/

namespace Session

variable {α : Type}

/-- The session after the settings were asked for: it keeps those that were found. -/
def read (session : Session) : Session :=
  { session with cache := session.cache.or (Settings.load session.environment).toOption }

variable [Machine]

/-- An operation that only reads the settings keeps them and changes nothing else. -/
theorem work_of_reads {operation : Build α} (reads : Build.Reads operation) (session : Session) :
    work operation session = ((operation session.desk).1, session.read) := by
  have read := reads session.desk
  have same : session.desk.readSettings.2.cache = session.read.cache := by
    rw [Desk.readSettings_snd]
    rfl
  have quiet : session.desk.readSettings.2.events = [] := by
    rw [Desk.readSettings_snd]
    rfl
  rcases run : operation session.desk with ⟨outcome, desk⟩
  rw [run] at read
  obtain rfl : desk = session.desk.readSettings.2 := read
  rw [work_of_no_events run quiet, same, Session.read]

omit [Machine] in
theorem inForce_read (session : Session) :
    Settings.inForce session.read.cache session.environment =
      Settings.inForce session.cache session.environment := by
  unfold read Settings.inForce
  cases session.cache with
  | some settings => rfl
  | none => cases Settings.load session.environment <;> simp [Except.toOption]

omit [Machine] in
theorem read_read (session : Session) : session.read.read = session.read := by
  unfold read
  cases session.cache with
  | some settings => rfl
  | none => cases Settings.load session.environment <;> simp [Except.toOption]

end Session

end SqlAssembly
