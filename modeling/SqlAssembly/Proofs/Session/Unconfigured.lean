import SqlAssembly.Proofs.Session.Configured

/-!
# Configuring that fails

Configuring fails for one of two reasons.  The level may be refused, and then the
journal is left as it was.  Or storage refuses the file or its directory, and then
the package has the new threshold already (`Session.threshold_stays`), for that is
set first.

In either case no handler is attached, and the root is left alone
(`Session.failed_configuring`).
-/

namespace SqlAssembly

section

variable [Machine]

namespace Step

/-- Configuring fails with a refused level or with a file that cannot be opened. -/
theorem configure_eq_error {level : Value} {session after : Session} {fault : Fault}
    (failed : configure level session = (.error fault, after)) :
    match Journal.configurationFor level (Settings.inForce session.cache session.environment)
      session.environment session.clock.day with
    | .error refused => fault = refused ∧ after.journal = session.journal
    | .ok c => ∃ path storage, c.file = some path ∧
        session.journal.storage.openFile path = (some fault, storage) ∧
        after.journal =
          (session.journal.setThreshold Logger.package.name c.threshold).withStorage storage := by
  rw [configure_apply] at failed
  cases found : Journal.configurationFor level
    (Settings.inForce session.cache session.environment) session.environment session.clock.day with
  | error refused =>
    rw [found] at failed
    cases failed
    refine ⟨rfl, ?_⟩
    cases Journal.levelAsks level <;> rfl
  | ok c =>
    rw [found] at failed
    dsimp only at failed
    rcases configured : session.journal.configure c.threshold c.file with ⟨other | made, journal⟩ <;>
      rw [configured] at failed <;> cases failed
    exact Journal.configure_eq_error configured

end Step

namespace Session

/-- Configuring that fails attaches no handler to the package, and leaves handlers, threshold and
lines of the root and the thresholds of all other loggers as they were.

If the level is refused, the whole journal is left as it was.  If the file cannot be opened, nothing
but the package's threshold and storage is other than before. -/
theorem failed_configuring {level : Value} {session after : Session} {fault : Fault}
    (failed : Step.configure level session = (.error fault, after)) :
    after.journal.handlers = session.journal.handlers ∧
      after.journal.rootHandlers = session.journal.rootHandlers ∧
      after.journal.captured = session.journal.captured ∧
      (∀ name, name ≠ Logger.package.name →
        after.journal.ownThreshold name = session.journal.ownThreshold name) ∧
      match Journal.configurationFor level (Settings.inForce session.cache session.environment)
        session.environment session.clock.day with
      | .error refused => fault = refused ∧ after.journal = session.journal
      | .ok c => after.journal.ownThreshold Logger.package.name = c.threshold ∧
          ∃ path storage, c.file = some path ∧
            session.journal.storage.openFile path = (some fault, storage) ∧
            after.journal =
              (session.journal.setThreshold Logger.package.name c.threshold).withStorage storage := by
  have reason := Step.configure_eq_error failed
  cases found : Journal.configurationFor level
    (Settings.inForce session.cache session.environment) session.environment session.clock.day with
  | error refused =>
    rw [found] at reason
    obtain ⟨rfl, same⟩ := reason
    rw [same]
    exact ⟨rfl, rfl, rfl, fun _ _ => rfl, rfl, rfl⟩
  | ok c =>
    rw [found] at reason
    obtain ⟨path, storage, asked, opened, same⟩ := reason
    rw [same]
    refine ⟨rfl, rfl, rfl, fun name other => ?_, ?_, path, storage, asked, opened, rfl⟩
    · exact Journal.ownThreshold_setPackage_of_ne session.journal c.threshold other
    · exact Journal.ownThreshold_setPackage session.journal c.threshold

end Session

end

namespace Session

/-- A session whose settings ask for a file below something that is no directory. -/
def obstructed : Session :=
  { untouched with
    cache := some ⟨"INFO", true, "/dev/null/logs", false⟩
    journal := Journal.fresh (Storage.ofEntries
      [(Path.ofString "/dev", .directory), (Path.ofString "/dev/null", .file)]) }

theorem failed_configuring_obstructed :
    let fault := Fault.storageRefused .notDirectory "/dev/null/logs"
    let after := (Step.configure (.int 10) obstructed).2
    Step.configure (.int 10) obstructed = (.error fault, after) ∧
      after.journal.handlers = obstructed.journal.handlers ∧
      after.journal.ownThreshold Logger.rootName = obstructed.journal.ownThreshold Logger.rootName := by
  intro fault after
  have failed : Step.configure (.int 10) obstructed = (.error fault, after) := Prod.ext rfl rfl
  obtain ⟨handlers, _, _, others, _⟩ := failed_configuring failed
  exact ⟨failed, handlers, others _ (by decide)⟩

/-- Where the file cannot be opened, configuring fails, but the package has another threshold. -/
theorem threshold_stays :
    (Step.configure (.int 10) obstructed).1 =
        .error (.storageRefused .notDirectory "/dev/null/logs") ∧
      obstructed.journal.ownThreshold Logger.package.name = .rank 0 ∧
      (Step.configure (.int 10) obstructed).2.journal.ownThreshold Logger.package.name =
        .rank 10 := by
  refine ⟨rfl, ?_, ?_⟩ <;> decide +kernel

end Session

end SqlAssembly
