import SqlAssembly.Proofs.Journal.Configuring
import SqlAssembly.Proofs.Session.Keeping

/-!
# Configuring in sessions

A step that configures the journal does it piece by piece: it looks for a level,
sets the threshold, makes the directory of the file and attaches handlers.  What
it comes to is written here in one (`Step.configure_apply`), from what each piece
comes to.

The file of the day is found by the settings, and finding it makes its directory
(`Step.logFile_apply`).  Storage may refuse that, which is then what finding the
file comes to.
-/

namespace SqlAssembly

open Activity

/-- The session with another storage. -/
def Session.withStorage (session : Session) (storage : Storage) : Session :=
  { session with journal := session.journal.withStorage storage }

namespace Step

/-! ## The file of the day -/

theorem makeDirectory_apply (p : Path) (session : Session) :
    makeDirectory p session =
      ((session.journal.storage.makeDirectory p).1.elim (.ok ()) .error,
        session.withStorage (session.journal.storage.makeDirectory p).2) := by
  rw [makeDirectory, get_bind_apply]
  rcases session.journal.storage.makeDirectory p with ⟨_ | fault, storage⟩ <;> rfl

variable [Machine]

theorem logFile_apply (session : Session) :
    logFile session =
      let path := Journal.pathFor (Settings.inForce session.cache session.environment)
        session.clock.day
      let made := session.journal.storage.makeDirectory path.parent
      (made.1.elim (.ok path) .error, session.read.withStorage made.2) := by
  have planned : Session.work (Journal.plannedPath session.clock.day) session =
      (.ok (Journal.pathFor (Settings.inForce session.cache session.environment)
        session.clock.day), session.read) := by
    rw [Session.work_of_reads (Journal.reads_plannedPath _), Journal.plannedPath_fst,
      Desk.readSettings_fst]
    rfl
  rw [logFile, get_bind_apply, bind_of_ok planned, bind_apply, makeDirectory_apply]
  have same : session.read.journal = session.journal := rfl
  rw [same]
  dsimp only
  rcases session.journal.storage.makeDirectory _ with ⟨_ | fault, storage⟩ <;> rfl

theorem chosenFile_apply (session : Session) :
    chosenFile session =
      match Journal.fileFor (Settings.inForce session.cache session.environment)
        session.clock.day with
      | none => (.ok none, session.read)
      | some path =>
        let made := session.journal.storage.makeDirectory path.parent
        (made.1.elim (.ok (some path)) .error, session.read.withStorage made.2) := by
  have planned : Session.work Journal.plannedToFile session =
      (.ok (Journal.fileFor (Settings.inForce session.cache session.environment)
        session.clock.day).isSome, session.read) := by
    rw [Session.work_of_reads Journal.reads_plannedToFile,
      Journal.plannedToFile_fst session.clock.day, Desk.readSettings_fst]
    rfl
  rw [chosenFile, bind_of_ok planned]
  cases asked : Journal.fileFor (Settings.inForce session.cache session.environment)
    session.clock.day with
  | none => rfl
  | some path =>
    -- The settings were read already, and finding the file reads them again.
    have again : Journal.pathFor (Settings.inForce session.read.cache session.read.environment)
        session.read.clock.day = path := by
      rw [← Journal.pathFor_of_fileFor asked, ← session.inForce_read]
      rfl
    have found := logFile_apply session.read
    rw [again, session.read_read] at found
    simp only [Option.isSome_some, if_true, bind_apply, found]
    have same : session.read.journal = session.journal := rfl
    rw [same]
    rcases session.journal.storage.makeDirectory path.parent with ⟨_ | fault, storage⟩ <;> rfl

/-! ## The level -/

/-- The session after a level was looked for: without one the settings are asked. -/
theorem work_chosenLevel (level : Value) (session : Session) :
    Session.work (Journal.chosenLevel level) session =
      (Journal.thresholdFor level (Settings.inForce session.cache session.environment)
        session.environment, if level.kind = .null then session.read else session) := by
  by_cases no_level : level.kind = .null
  · rw [if_pos no_level, Session.work_of_reads (Journal.reads_chosenLevel no_level),
      Journal.chosenLevel_fst, Desk.readSettings_fst]
    rfl
  · have given : Journal.chosenLevel level = liftM (Threshold.ofValue level) := if_neg no_level
    have threshold (settings : Except Report Settings) : Journal.thresholdFor level settings
        session.environment = Threshold.ofValue level := if_neg no_level
    rw [if_neg no_level, given, threshold]
    exact Session.work_of_no_events rfl rfl

/-! ## All of it -/

/-- What is done once the threshold is known. -/
theorem configure_threshold_apply (threshold : Threshold) (session : Session) :
    (Session.changeJournal (·.setThreshold Logger.package.name threshold) >>= fun _ =>
        chosenFile >>= attach threshold) session =
      match session.journal.configure threshold (Journal.fileFor
        (Settings.inForce session.cache session.environment) session.clock.day) with
      | (.error fault, journal) => (.error fault, { session.read with journal := journal })
      | (.ok made, journal) =>
        (.ok (.configured made journal.handlers.length
          (journal.ownThreshold Logger.package.name)), { session.read with journal := journal }) := by
  let raised := { session with
    journal := session.journal.setThreshold Logger.package.name threshold }
  have change : Session.changeJournal (·.setThreshold Logger.package.name threshold) session =
      (.ok (), raised) := rfl
  have chosen := chosenFile_apply raised
  have in_force : Settings.inForce raised.cache raised.environment =
      Settings.inForce session.cache session.environment := rfl
  have day : raised.clock.day = session.clock.day := rfl
  rw [bind_of_ok change]
  rw [in_force, day] at chosen
  cases asked : Journal.fileFor (Settings.inForce session.cache session.environment)
    session.clock.day with
  | none =>
    rw [asked] at chosen
    rw [bind_of_ok chosen]
    rfl
  | some path =>
    have same : raised.journal.storage = session.journal.storage := rfl
    rw [asked] at chosen
    dsimp only at chosen
    rw [same] at chosen
    rcases made : session.journal.storage.makeDirectory path.parent with ⟨_ | fault, storage⟩ <;>
      rw [made] at chosen
    · rw [bind_of_ok chosen, attach, get_bind_apply, Journal.configure_some,
        Storage.openFile_of_made made]
      have place : (raised.read.withStorage storage).journal.created (some path) =
          storage.create path := rfl
      rw [Journal.attach, place]
      cases storage.create path <;> rfl
    · rw [bind_of_error chosen, Journal.configure_some, Storage.openFile_of_refused made]
      rfl

/-- Only a level that is looked for, or one that is a threshold, leads to the settings. -/
theorem levelAsks_eq {level : Value} {settings : Except Report Settings}
    {environment : Environment} {outcome : Except Fault Threshold}
    (threshold : Journal.thresholdFor level settings environment = outcome) :
    Journal.levelAsks level = (decide (level.kind = .null) || outcome.isOk) := by
  by_cases no_level : level.kind = .null
  · simp [Journal.levelAsks, no_level]
  · have given : Threshold.ofValue level = outcome := (if_neg no_level).symm.trans threshold
    rw [Journal.levelAsks, given]

/-- Configuring keeps the settings that it reads.  It is refused because of the level, or else does
to the journal what that does for the configuration. -/
theorem configure_apply (level : Value) (session : Session) :
    configure level session =
      let kept := if Journal.levelAsks level then session.read else session
      match Journal.configurationFor level (Settings.inForce session.cache session.environment)
        session.environment session.clock.day with
      | .error fault => (.error fault, kept)
      | .ok c => match session.journal.configure c.threshold c.file with
        | (.error fault, journal) => (.error fault, { kept with journal := journal })
        | (.ok made, journal) =>
          (.ok (.configured made journal.handlers.length
            (journal.ownThreshold Logger.package.name)), { kept with journal := journal }) := by
  rw [configure, bind_apply, work_chosenLevel, Journal.configurationFor]
  cases threshold : Journal.thresholdFor level
    (Settings.inForce session.cache session.environment) session.environment with
  | error fault =>
    rw [levelAsks_eq threshold]
    by_cases no_level : level.kind = .null <;> simp [no_level, Except.map, Except.isOk, Except.toBool]
  | ok t =>
    have asks : Journal.levelAsks level = true := by
      rw [levelAsks_eq threshold]
      exact Bool.or_true _
    rw [asks]
    by_cases no_level : level.kind = .null
    · rw [if_pos no_level]
      have rest := configure_threshold_apply t session.read
      have environment : session.read.environment = session.environment := rfl
      rw [environment, session.inForce_read, session.read_read] at rest
      exact rest
    · rw [if_neg no_level]
      exact configure_threshold_apply t session

/-! ## What is then kept of the settings -/

theorem cache_configure (level : Value) (session : Session) :
    (configure level session).2.cache =
      (if Journal.levelAsks level then session.read else session).cache := by
  rw [configure_apply]
  dsimp only
  cases Journal.configurationFor level (Settings.inForce session.cache session.environment)
    session.environment session.clock.day with
  | error fault => rfl
  | ok c =>
    dsimp only
    rcases session.journal.configure c.threshold c.file with ⟨fault | made, journal⟩ <;> rfl

/-- The settings are asked three times, but what is found the first time is kept. -/
theorem cache_plan (session : Session) : (plan session).2.cache = session.read.cache := by
  have level := Session.work_of_reads Journal.reads_plannedLevel session
  have toFile := Session.work_of_reads Journal.reads_plannedToFile session.read
  have file : (logFile session.read).2.cache = session.read.cache := by
    rw [logFile_apply, Session.read_read]
    rfl
  rw [plan, bind_apply, level]
  rcases (Journal.plannedLevel session.desk).1 with fault | level
  · rfl
  · dsimp only
    rw [bind_apply, toFile, Session.read_read]
    rcases (Journal.plannedToFile session.read.desk).1 with fault | toFile
    · rfl
    · have last (path : Path) : Keeps Session.cache (liftM level.toValue >>= fun v =>
          (pure (.plan v toFile path) : Activity Result)) :=
        (Keeps.lift _).bind fun _ => .pure _
      exact (Keeps.part_bind last).trans file

end Step

end SqlAssembly
