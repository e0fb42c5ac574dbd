import SqlAssembly.Proofs.Journal.Configuring
import SqlAssembly.Proofs.Settings.Precedence
import SqlAssembly.Proofs.Text.Idempotence

/-!
# Names of levels

A level has a name, and the name has a rank: its own, or that of information if
it is unknown.  Two names are *foreign*: they stand for what is no threshold
(`Threshold.named_of_not_foreign`, `Threshold.refused_of_foreign`).

Where the settings cannot be read, the name is looked up in another way.  It is
the same name as long as its variable is spelled in one way
(`Journal.levelName_load`): the settings have it in upper case and it is put in
upper case again, which changes nothing, and without the variable both ways have
the same default.

The settings cannot be read if a truth value is *malformed*.  In the environment
without malformed variables they can (`Environment.load_mended`).
-/

namespace SqlAssembly

open Bindings (folded)
open Settings (IsFlag)

namespace Threshold

/-! ## Ranks of names -/

/-- The names that stand for what is no threshold. -/
def foreignNames : List String := [lineFormat.1, lineStyles.1]

/-- The rank of a name; that of information, if the name is unknown. -/
def rankOf (name : String) : Int := (ofName? name).getD Severity.info.rank

theorem named_of_not_foreign {name : String} (own : name ∉ foreignNames) :
    named name = .value (.int (rankOf name)) := by
  obtain ⟨not_format, not_styles⟩ : name ≠ lineFormat.1 ∧ name ≠ lineStyles.1 := by
    simpa [foreignNames] using own
  rw [named, rankOf]
  cases ofName? name with
  | some n => rfl
  | none => rw [if_neg not_format, if_neg not_styles]; rfl

/-- Why a foreign name is refused. -/
def foreignFault (name : String) : Fault :=
  if name = lineFormat.1 then .unknownThreshold (.str lineFormat.2) else .notThreshold lineStyles.2

/-- What a foreign name stands for. -/
def foreign (name : String) : Named :=
  if name = lineFormat.1 then .value (.str lineFormat.2) else .styles

variable [Machine]

/-- A foreign name stands for no integer, and what it stands for is refused as a threshold. -/
theorem refused_of_foreign {name : String} (among : name ∈ foreignNames) :
    named name = foreign name ∧ (∀ n, named name ≠ .value (.int n)) ∧
      ofNamed (named name) = .error (foreignFault name) := by
  rcases List.mem_pair.1 among with rfl | rfl
  · have format : named lineFormat.1 = .value (.str lineFormat.2) := rfl
    rw [format]
    exact ⟨rfl, fun n same => (nomatch same), rfl⟩
  · have styles : named lineStyles.1 = .styles := rfl
    rw [styles]
    exact ⟨rfl, fun n same => (nomatch same), rfl⟩

theorem named_eq_int_iff {name : String} :
    (∃ n, named name = .value (.int n)) ↔ name ∉ foreignNames :=
  ⟨fun ⟨n, stands⟩ among => (refused_of_foreign among).2.1 n stands,
    fun own => ⟨_, named_of_not_foreign own⟩⟩

end Threshold

/-! ## Malformed variables -/

/-- The names of the truth values among the settings. -/
def Settings.flagNames : List String := ["PARAM_SQL_LOG_TO_FILE", "PARAM_SQL_STRICT_SORT_DIRECTION"]

/-- Whether a variable is for a truth value, and its text is no word for one. -/
def Settings.IsMalformed (pair : String × String) : Prop :=
  (∃ name ∈ flagNames, folded pair.1 = folded name) ∧ ¬ IsFlag pair.2

instance (pair : String × String) : Decidable (Settings.IsMalformed pair) :=
  inferInstanceAs (Decidable (_ ∧ _))

namespace Environment

open Settings (flagNames IsMalformed)

/-- Whether a truth value of the settings has a text that is no word for one. -/
def HasMalformed (environment : Environment) : Prop :=
  ∃ name ∈ flagNames, ∃ text, environment.lookup? name = some text ∧ ¬ IsFlag text

/-- The environment without malformed variables. -/
def mended (environment : Environment) : Environment :=
  { environment with process := environment.process.filter fun pair => ¬ IsMalformed pair }

/-- The texts that are looked up for the settings. -/
def texts (environment : Environment) : Settings.Texts where
  level := environment.lookup? "LOG_LEVEL"
  toFile := environment.lookup? "PARAM_SQL_LOG_TO_FILE"
  directory := environment.lookup? "PARAM_SQL_LOG_FILE_DIR"
  strict := environment.lookup? "PARAM_SQL_STRICT_SORT_DIRECTION"

theorem lookedUp_texts (environment : Environment) : environment.texts.LookedUp environment :=
  ⟨rfl, rfl, rfl, rfl⟩

/-- The texts for truth values are those that are looked up under their names. -/
theorem forall_flags_iff {environment : Environment} :
    (∀ flag ∈ environment.texts.flags, IsFlag flag.2) ↔
      ∀ name ∈ flagNames, ∀ text, environment.lookup? name = some text → IsFlag text := by
  simp [Settings.Texts.flags, flagNames, texts, or_imp, forall_and]

theorem load_of_malformed {environment : Environment} (malformed : environment.HasMalformed) :
    ∃ report, Settings.load environment = .error report := by
  have no_settings : ¬ ∀ flag ∈ environment.texts.flags, IsFlag flag.2 := by
    rw [forall_flags_iff]
    obtain ⟨name, among, text, there, no_word⟩ := malformed
    exact fun all => no_word (all name among text there)
  exact ⟨_, (Settings.load_eq environment.lookedUp_texts).trans (if_neg no_settings)⟩

theorem lookup?_of_no_file {environment : Environment} (no_file : environment.file = [])
    (name : String) : environment.lookup? name = environment.process.last? name := by
  rw [lookup?, no_file]
  cases environment.process.last? name <;> rfl

/-- Without a file, the settings can be read once malformed variables are left out. -/
theorem load_mended {environment : Environment} (no_file : environment.file = []) :
    Settings.load environment.mended = .ok environment.mended.texts.settings := by
  have all_words : ∀ flag ∈ environment.mended.texts.flags, IsFlag flag.2 := by
    have still_no_file : environment.mended.file = [] := no_file
    rw [forall_flags_iff]
    intro name among text there
    rw [lookup?_of_no_file still_no_file, Bindings.last?_eq_some_iff] at there
    obtain ⟨before, spelled, after, split, same, _⟩ := there
    have kept : (spelled, text) ∈ environment.mended.process := by
      rw [split]
      exact List.mem_append_right _ List.mem_cons_self
    have well_formed : ¬ IsMalformed (spelled, text) := by
      simpa using (List.mem_filter.1 kept).2
    by_contra no_word
    exact well_formed ⟨⟨name, among, same⟩, no_word⟩
  exact (Settings.load_eq environment.mended.lookedUp_texts).trans (if_pos all_words)

end Environment

/-! ## The name of the level -/

/-- Whether the variables of a process have different names, and none has that of the level but for
its case. -/
structure SpellsLevelOnce (process : Bindings String) : Prop where
  distinct : (process.map Prod.fst).Nodup
  spelled : ∀ name ∈ process.map Prod.fst, folded name = folded "LOG_LEVEL" → name = "LOG_LEVEL"

theorem SpellsLevelOnce.last?_eq_get? {process : Bindings String}
    (once : SpellsLevelOnce process) : process.last? "LOG_LEVEL" = process.get? "LOG_LEVEL" :=
  Bindings.last?_eq_get? once.distinct once.spelled

namespace Journal

/-- The name of the level, in upper case: that in the settings, or that in its variable if they
cannot be read. -/
def levelName (settings : Except Report Settings) (environment : Environment) : String :=
  match settings with
  | .ok settings => Text.upper settings.logLevel
  | .error _ => fallbackLevel environment

theorem plannedLevel_apply (desk : Desk) :
    plannedLevel desk =
      (.ok (Threshold.named (levelName desk.readSettings.1 desk.environment)),
        desk.readSettings.2) := by
  refine Prod.ext ?_ (reads_plannedLevel desk)
  rw [plannedLevel, Build.settings_bind_apply]
  cases desk.readSettings.1 with
  | ok settings => rfl
  | error report =>
    have same : desk.readSettings.2.environment = desk.environment := by rw [Desk.readSettings_snd]
    simp only [Build.bind_apply, Build.environment, Build.pure_apply, levelName, same]

variable [Machine]

theorem thresholdFor_null (settings : Except Report Settings) (environment : Environment) :
    thresholdFor .null settings environment =
      Threshold.ofNamed (Threshold.named (levelName settings environment)) := by
  cases settings <;> rfl

omit [Machine] in
theorem levelName_of_lookup? {environment : Environment}
    (same : environment.lookup? "LOG_LEVEL" = environment.process.get? "LOG_LEVEL") :
    levelName (Settings.load environment) environment = fallbackLevel environment := by
  rw [Settings.load_eq environment.lookedUp_texts]
  split
  · rw [levelName, fallbackLevel, ← same]
    exact Text.upper_upper _
  · rfl

omit [Machine] in
/-- Whether the settings can be read or not, the name is the same. -/
theorem levelName_load {environment : Environment} (no_file : environment.file = [])
    (once : SpellsLevelOnce environment.process) :
    levelName (Settings.load environment) environment = fallbackLevel environment :=
  levelName_of_lookup? ((Environment.lookup?_of_no_file no_file _).trans once.last?_eq_get?)

omit [Machine] in
/-- A variable for the level has precedence over a file, and its text is the name. -/
theorem levelName_of_variable {environment : Environment}
    (once : SpellsLevelOnce environment.process) {text : String}
    (there : environment.process.get? "LOG_LEVEL" = some text) :
    levelName (Settings.load environment) environment = Text.upper text := by
  have found := Environment.lookup?_of_variable (once.last?_eq_get?.trans there)
  rw [levelName_of_lookup? (found.trans there.symm), fallbackLevel, there]
  rfl

end Journal

namespace SpellsLevelOnce

variable {environment : Environment}

theorem mended (once : SpellsLevelOnce environment.process) :
    SpellsLevelOnce environment.mended.process where
  distinct := once.distinct.sublist (List.filter_sublist.map Prod.fst)
  spelled := fun name among => once.spelled name
    ((List.filter_sublist.map Prod.fst).subset among)

/-- Malformed variables have other names than the level. -/
theorem get?_mended (once : SpellsLevelOnce environment.process) :
    environment.mended.process.get? "LOG_LEVEL" = environment.process.get? "LOG_LEVEL" := by
  rw [← once.mended.last?_eq_get?, ← once.last?_eq_get?]
  refine Bindings.last?_filter_of_kept fun pair _ level => decide_eq_true ?_
  rintro ⟨⟨name, among, same⟩, _⟩
  have apart : ∀ name ∈ Settings.flagNames, folded "LOG_LEVEL" ≠ folded name := by
    simp [Settings.flagNames, Bindings.folded_eq]
  exact apart name among (level.symm.trans same)

theorem fallbackLevel_mended (once : SpellsLevelOnce environment.process) :
    Journal.fallbackLevel environment.mended = Journal.fallbackLevel environment := by
  rw [Journal.fallbackLevel, Journal.fallbackLevel, once.get?_mended]

end SpellsLevelOnce

end SqlAssembly
