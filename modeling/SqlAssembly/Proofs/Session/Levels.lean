import SqlAssembly.Proofs.Journal.Levels
import SqlAssembly.Proofs.Session.Unconfigured

/-!
# Levels in sessions

The level that the journal is planned with is the rank of a name, whatever text
the variable for the level has, unless the name is foreign: configuring without a
level fails because of that only, or else because of the file
(`Session.usable_level`).  A format stands among the names of levels, so that
there is a text for which the level is no integer (`Session.format_for_level`).

A malformed truth value changes nothing of the level
(`Session.level_despite_malformed`).  The journal is then planned without a file,
and the directory for one is the default one.
-/

namespace SqlAssembly

open Settings (IsFlag)

namespace Session

section

variable [Machine] {α : Type}

/-- The name of the level that is in force in a session. -/
def levelName (session : Session) : String :=
  Journal.levelName (Settings.inForce session.cache session.environment) session.environment

theorem work_plannedLevel_fst (session : Session) :
    (work Journal.plannedLevel session).1 = .ok (Threshold.named session.levelName) := by
  rw [work_of_reads Journal.reads_plannedLevel, Journal.plannedLevel_apply, Desk.readSettings_fst]
  rfl

/-! ## Settings that cannot be read -/

omit [Machine] in
theorem read_of_unreadable {session : Session} (nothing_kept : session.cache = none)
    {report : Report} (unreadable : Settings.load session.environment = .error report) :
    session.read = session := by
  have nothing_read : session.cache.or (Settings.load session.environment).toOption =
      session.cache := by
    rw [nothing_kept, unreadable]
    rfl
  rw [read, nothing_read]

theorem work_of_unreadable {operation : Build α} (reads : Build.Reads operation)
    {session : Session} (nothing_kept : session.cache = none) {report : Report}
    (unreadable : Settings.load session.environment = .error report) :
    work operation session = ((operation session.desk).1, session) := by
  rw [work_of_reads reads, read_of_unreadable nothing_kept unreadable]

/-- Where a truth value of the settings is malformed, the level is the one that it would be without
malformed variables, and the settings can be read there.  The journal is planned without a file.  The
file that it would have lies in the default directory, which is made, unless storage refuses it. -/
theorem level_despite_malformed {session : Session} (nothing_kept : session.cache = none)
    (no_file : session.environment.file = [])
    (once : SpellsLevelOnce session.environment.process)
    (malformed : session.environment.HasMalformed) :
    let mended := { session with environment := session.environment.mended }
    (Settings.load mended.environment).isOk = true ∧
      work Journal.plannedLevel session = ((work Journal.plannedLevel mended).1, session) ∧
      work Journal.plannedToFile session = (.ok false, session) ∧
      let made := session.journal.storage.makeDirectory (Path.ofString "logs")
      Step.logFile session =
        (made.1.elim (.ok ((Path.ofString "logs").child (Journal.fileName session.clock.day))) .error,
          session.withStorage made.2) := by
  intro mended
  obtain ⟨report, unreadable⟩ := Environment.load_of_malformed malformed
  have unread : session.desk.readSettings.1 = .error report := by
    rw [Desk.readSettings_fst]
    show Settings.inForce session.cache session.environment = _
    rw [nothing_kept]
    exact unreadable
  refine ⟨?readable, ?level, ?toFile, ?file⟩
  case readable =>
    show (Settings.load session.environment.mended).isOk = true
    rw [Environment.load_mended no_file]
    rfl
  case level =>
    -- Both names are looked up in the variable, which is not malformed.
    have broken : session.levelName = Journal.fallbackLevel session.environment := by
      rw [levelName, nothing_kept]
      exact Journal.levelName_load no_file once
    have whole : mended.levelName = Journal.fallbackLevel session.environment.mended := by
      show Journal.levelName (Settings.inForce session.cache _) _ = _
      rw [nothing_kept]
      exact Journal.levelName_load no_file once.mended
    have same_name : session.levelName = mended.levelName := by
      rw [broken, whole, once.fallbackLevel_mended]
    refine Prod.ext ?_ ?_
    · rw [work_plannedLevel_fst, work_plannedLevel_fst, same_name]
    · rw [work_of_unreadable Journal.reads_plannedLevel nothing_kept unreadable]
  case toFile =>
    rw [work_of_unreadable Journal.reads_plannedToFile nothing_kept unreadable,
      Journal.plannedToFile, Build.settings_bind_apply, unread]
    rfl
  case file =>
    have in_force : Settings.inForce session.cache session.environment = .error report := by
      rw [nothing_kept]
      exact unreadable
    rw [Step.logFile_apply, read_of_unreadable nothing_kept unreadable, in_force]
    rfl

end

/-- A session whose variables have a malformed truth value, and a level with a dotless i. -/
def misled : Session :=
  { untouched with environment :=
      ⟨[("LOG_LEVEL", "critıcal"), ("param_sql_log_to_file", "maybe"),
        ("PARAM_SQL_LOG_FILE_DIR", "elsewhere")], []⟩ }

theorem spellsLevelOnce_misled : SpellsLevelOnce misled.environment.process := by
  constructor <;> simp [misled, Bindings.folded_eq]

theorem levelName_misled : misled.levelName = "CRITICAL" := by
  have there : misled.environment.process.get? "LOG_LEVEL" = some "critıcal" := by decide
  have upper : Text.upper "critıcal" = "CRITICAL" := by decide +kernel
  exact (Journal.levelName_of_variable spellsLevelOnce_misled there).trans upper

theorem level_despite_malformed_misled :
    let mended := { misled with environment := misled.environment.mended }
    misled.environment.HasMalformed ∧
      work Journal.plannedLevel misled = ((work Journal.plannedLevel mended).1, misled) ∧
      (work Journal.plannedLevel misled).1 = .ok (.value (.int 50)) ∧
      work Journal.plannedToFile misled = (.ok false, misled) ∧
      (Step.logFile misled).1 = .ok ⟨.relative, ["logs", "param-sql-.log"]⟩ ∧
      (Step.logFile misled).2.journal.storage.isDirectory (Path.ofString "logs") = true := by
  intro mended
  have there : misled.environment.process.last? "PARAM_SQL_LOG_TO_FILE" = some "maybe" := by
    refine Bindings.last?_of_mem ?_ (List.mem_cons_of_mem _ List.mem_cons_self) ?_
    · simp [misled, Bindings.folded_eq]
    · simp [Bindings.folded_eq]
  have malformed : misled.environment.HasMalformed := by
    refine ⟨"PARAM_SQL_LOG_TO_FILE", List.mem_cons_self, "maybe", ?_, ?_⟩
    · rw [Environment.lookup?_of_no_file rfl, there]
    · simp [IsFlag, Settings.trueWords, Settings.falseWords, Bindings.folded_eq]
  have fifty : (work Journal.plannedLevel misled).1 = .ok (.value (.int 50)) := by
    rw [work_plannedLevel_fst, levelName_misled]
    rfl
  obtain ⟨_, level, toFile, file⟩ :=
    level_despite_malformed rfl rfl spellsLevelOnce_misled malformed
  refine ⟨malformed, level, fifty, toFile, ?_, ?_⟩ <;> rw [file] <;> rfl

/-! ## Any text for the level -/

section

variable [Machine]

/-- With a foreign name configuring is refused for it. -/
theorem configure_of_foreign {session : Session}
    (foreign : session.levelName ∈ Threshold.foreignNames) :
    (Step.configure .null session).1 = .error (Threshold.foreignFault session.levelName) := by
  have refused : Journal.thresholdFor .null
      (Settings.inForce session.cache session.environment) session.environment =
        .error (Threshold.foreignFault session.levelName) :=
    (Journal.thresholdFor_null _ _).trans (Threshold.refused_of_foreign foreign).2.2
  rw [Step.configure_apply, Journal.configurationFor, refused]
  rfl

/-- With any other name configuring fails only because of the file. -/
theorem configure_of_not_foreign {session after : Session} {fault : Fault}
    (own : session.levelName ∉ Threshold.foreignNames)
    (failed : Step.configure .null session = (.error fault, after)) :
    ∃ path storage, Journal.fileFor
        (Settings.inForce session.cache session.environment) session.clock.day = some path ∧
      session.journal.storage.openFile path = (some fault, storage) := by
  have threshold : Journal.thresholdFor .null
      (Settings.inForce session.cache session.environment) session.environment =
        .ok (.rank (Threshold.rankOf session.levelName)) := by
    rw [Journal.thresholdFor_null]
    show Threshold.ofNamed (Threshold.named session.levelName) = _
    rw [Threshold.named_of_not_foreign own]
    rfl
  have reason := Step.configure_eq_error failed
  rw [Journal.configurationFor, threshold] at reason
  obtain ⟨path, storage, asked, opened, _⟩ := reason
  exact ⟨path, storage, asked, opened⟩

/-- The level is an integer unless its name is foreign: the rank of the name, or that of information
if the name is unknown.  Configuring without a level is refused for a foreign name, and fails for no
other but because the file cannot be opened.  Where there is a variable for the level, the name is its
text in upper case, and the other settings do not matter. -/
theorem usable_level (session : Session) :
    ((∃ n, (work Journal.plannedLevel session).1 = .ok (.value (.int n))) ↔
        session.levelName ∉ Threshold.foreignNames) ∧
      (session.levelName ∉ Threshold.foreignNames →
        (work Journal.plannedLevel session).1 =
            .ok (.value (.int (Threshold.rankOf session.levelName))) ∧
          ∀ fault after, Step.configure .null session = (.error fault, after) →
            ∃ path storage, Journal.fileFor
                (Settings.inForce session.cache session.environment) session.clock.day = some path ∧
              session.journal.storage.openFile path = (some fault, storage)) ∧
      (session.levelName ∈ Threshold.foreignNames →
        (work Journal.plannedLevel session).1 = .ok (Threshold.foreign session.levelName) ∧
          (Step.configure .null session).1 =
            .error (Threshold.foreignFault session.levelName)) ∧
      (∀ text, session.cache = none → SpellsLevelOnce session.environment.process →
        session.environment.process.get? "LOG_LEVEL" = some text →
          session.levelName = Text.upper text) := by
  refine ⟨?integer, fun own => ⟨?rank, fun fault after => configure_of_not_foreign own⟩,
    fun foreign => ⟨?foreign, configure_of_foreign foreign⟩, ?text⟩
  case integer =>
    rw [work_plannedLevel_fst]
    simpa using Threshold.named_eq_int_iff
  case foreign => rw [work_plannedLevel_fst, (Threshold.refused_of_foreign foreign).1]
  case rank => rw [work_plannedLevel_fst, Threshold.named_of_not_foreign own]
  case text =>
    intro text nothing_kept once there
    rw [levelName, nothing_kept]
    exact Journal.levelName_of_variable once there

end

theorem usable_level_misled :
    misled.levelName ∉ Threshold.foreignNames ∧
      (work Journal.plannedLevel misled).1 = .ok (.value (.int 50)) := by
  have own : misled.levelName ∉ Threshold.foreignNames := by
    rw [levelName_misled]
    decide
  have rank := ((usable_level misled).2.1 own).1
  rw [levelName_misled] at rank
  exact ⟨own, rank⟩

/-- The name of the line format gives no integer, and configuring without a level fails. -/
theorem format_for_level :
    let session := { untouched with environment := ⟨[("LOG_LEVEL", "basic_format")], []⟩ }
    let format := "%(levelname)s:%(name)s:%(message)s"
    (work Journal.plannedLevel session).1 = .ok (.value (.str format)) ∧
      (Step.configure .null session).1 = .error (.unknownThreshold (.str format)) := by
  intro session format
  have once : SpellsLevelOnce session.environment.process := by
    constructor <;> simp [session]
  have upper : Text.upper "basic_format" = Threshold.lineFormat.1 := by decide +kernel
  have name : session.levelName = Threshold.lineFormat.1 :=
    (Journal.levelName_of_variable once rfl).trans upper
  constructor
  · rw [work_plannedLevel_fst, name]
    rfl
  · rw [configure_of_foreign (name ▸ List.mem_cons_self), name]
    rfl

end Session

end SqlAssembly
