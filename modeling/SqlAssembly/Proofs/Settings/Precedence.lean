import SqlAssembly.Proofs.Bindings
import SqlAssembly.Proofs.Session.Keeping
import SqlAssembly.Proofs.Settings.PlainFile

/-!
# Where settings come from

Each setting has a name of its own.  The text for it is that of the variable of
this name, if there is one, whatever the case of the name; else that of the last
such line of the settings file; else there is none (`Settings.Chosen`).

The settings are made of the four texts so chosen, and of nothing else.  If one
of the two texts for truth values is no word for one, there are no settings, and
the report has a problem for each of them (`Session.settings_chosen`).
-/

namespace SqlAssembly

open Bindings (folded)
open EnvFile (Line PlainFile)

namespace Settings

/-! ## Choosing texts -/

/-- The names of the settings. -/
def names : List String :=
  ["LOG_LEVEL", "PARAM_SQL_LOG_TO_FILE", "PARAM_SQL_LOG_FILE_DIR",
    "PARAM_SQL_STRICT_SORT_DIRECTION"]

/-- Whether a name is that of a setting, whatever its case. -/
def isName (name : String) : Bool := names.any fun own => folded name == folded own

/-- The text for a name, of the variables of a process and the lines of a file. -/
inductive Chosen (process : Bindings String) (lines : List Line) (name : String) :
    Option String → Prop
  /-- That of the variable. -/
  | fromProcess {spelled text : String} : (spelled, text) ∈ process → folded spelled = folded name →
      Chosen process lines name (some text)
  /-- That of the last line, if there is no variable. -/
  | fromFile {before after : List Line} {line : Line} :
      (∀ entry ∈ process, folded entry.1 ≠ folded name) →
      lines = before ++ line :: after → folded line.name = folded name →
      (∀ later ∈ after, folded later.name ≠ folded name) →
      Chosen process lines name (some line.text)
  /-- None, if there is no line either. -/
  | neither : (∀ entry ∈ process, folded entry.1 ≠ folded name) →
      (∀ line ∈ lines, folded line.name ≠ folded name) → Chosen process lines name none

/-- The variables of a process and the lines of a file, of which no two say different things: no two
variables have names that are equal but for their case, and lines with such names spell them in one
way. -/
structure Unmistakable (process : Bindings String) (file : PlainFile) : Prop where
  process : process.Pairwise fun first second => folded first.1 ≠ folded second.1
  file : Bindings.OneWay (file.lines.map Line.name)

variable {process : Bindings String} {file : PlainFile} {name : String}

theorem Unmistakable.last?_parse (unmistakable : Unmistakable process file) (name : String) :
    Bindings.last? (EnvFile.parse process file.text) name = file.entries.last? name := by
  have one_way : Bindings.OneWay (file.entries.map Prod.fst) := by
    rw [PlainFile.entries, List.map_map]
    exact unmistakable.file
  rw [PlainFile.parse_text, Bindings.last?_foldl_put one_way]

/-- The text that is looked up under a name is the one that is chosen for it. -/
theorem Chosen.lookup?_eq (unmistakable : Unmistakable process file) {text : Option String}
    (chosen : Chosen process file.lines name text) :
    (⟨process, EnvFile.parse process file.text⟩ : Environment).lookup? name = text := by
  cases chosen with
  | fromProcess among same =>
    exact Environment.lookup?_of_variable (Bindings.last?_of_mem unmistakable.process among same)
  | @fromFile before after line no_variable split same none_later =>
    rw [Environment.lookup?_of_no_variable (Bindings.last?_eq_none_iff.2 no_variable)]
    have is_last : file.entries.last? name = some (some line.text) := by
      refine Bindings.last?_eq_some_iff.2
        ⟨before.map Line.entry, line.name, after.map Line.entry, ?_, same, ?_⟩
      · rw [PlainFile.entries, split, List.map_append, List.map_cons, Line.entry]
      · intro later among
        obtain ⟨other, in_after, rfl⟩ := List.mem_map.1 among
        exact none_later other in_after
    rw [unmistakable.last?_parse, is_last]
    rfl
  | neither no_variable no_line =>
    rw [Environment.lookup?_of_no_variable (Bindings.last?_eq_none_iff.2 no_variable)]
    have no_entry : file.entries.last? name = none := by
      refine Bindings.last?_eq_none_iff.2 fun entry among => ?_
      obtain ⟨line, is_line, rfl⟩ := List.mem_map.1 among
      exact no_line line is_line
    rw [unmistakable.last?_parse, no_entry]
    rfl

theorem exists_chosen (process : Bindings String) (lines : List Line) (name : String) :
    ∃ text, Chosen process lines name text := by
  by_cases of_process : ∃ entry ∈ process, folded entry.1 = folded name
  · obtain ⟨⟨spelled, text⟩, among, same⟩ := of_process
    exact ⟨some text, .fromProcess among same⟩
  have no_variable : ∀ entry ∈ process, folded entry.1 ≠ folded name :=
    fun entry among same => of_process ⟨entry, among, same⟩
  cases found : lines.reverse.find? fun line => folded line.name == folded name with
  | none =>
    refine ⟨none, .neither no_variable fun line among => ?_⟩
    simpa using List.find?_eq_none.1 found line (List.mem_reverse.2 among)
  | some line =>
    obtain ⟨same, after, before, split, none_later⟩ := List.find?_eq_some_iff_append.1 found
    have lines_eq : lines = before.reverse ++ line :: after.reverse := by
      simpa using congrArg List.reverse split
    refine ⟨some line.text, .fromFile no_variable lines_eq (beq_iff_eq.1 same) ?_⟩
    intro later among
    simpa using none_later later (List.mem_reverse.1 among)

/-! ## Settings of texts -/

/-- Whether a text is a word for a truth value, whatever its case. -/
def IsFlag (word : String) : Prop := folded word ∈ trueWords ∨ folded word ∈ falseWords

instance (word : String) : Decidable (IsFlag word) := inferInstanceAs (Decidable (_ ∨ _))

/-- Whether a text, if there is one, is a word for true. -/
def isOn (text : Option String) : Bool := text.any fun word => trueWords.contains (folded word)

/-- Texts for the four settings. -/
structure Texts where
  /-- For the level. -/
  level : Option String
  /-- For whether events also go to a file. -/
  toFile : Option String
  /-- For the directory of that file. -/
  directory : Option String
  /-- For whether only the two sort directions are let through. -/
  strict : Option String

namespace Texts

/-- The settings that texts stand for. -/
def settings (texts : Texts) : Settings where
  logLevel := Text.upper (texts.level.getD "INFO")
  logToFile := isOn texts.toFile
  logFileDir := texts.directory.getD "logs"
  strictSortDirection := isOn texts.strict

/-- The texts for truth values that there are, by field. -/
def flags (texts : Texts) : List (String × String) :=
  texts.toFile.toList.map (Prod.mk "log_to_file") ++
    texts.strict.toList.map (Prod.mk "strict_sort_direction")

/-- A problem for each text for a truth value that is no word for one. -/
def problems (texts : Texts) : List Problem :=
  (texts.flags.filter fun flag => ¬ IsFlag flag.2).map fun flag =>
    ⟨[flag.1], .booleanWord, .str flag.2⟩

/-- What is looked up in an environment under the names of the settings. -/
structure LookedUp (environment : Environment) (texts : Texts) : Prop where
  level : environment.lookup? "LOG_LEVEL" = texts.level
  toFile : environment.lookup? "PARAM_SQL_LOG_TO_FILE" = texts.toFile
  directory : environment.lookup? "PARAM_SQL_LOG_FILE_DIR" = texts.directory
  strict : environment.lookup? "PARAM_SQL_STRICT_SORT_DIRECTION" = texts.strict

/-- What is chosen for the names of the settings. -/
structure AreChosen (process : Bindings String) (lines : List Line) (texts : Texts) : Prop where
  level : Chosen process lines "LOG_LEVEL" texts.level
  toFile : Chosen process lines "PARAM_SQL_LOG_TO_FILE" texts.toFile
  directory : Chosen process lines "PARAM_SQL_LOG_FILE_DIR" texts.directory
  strict : Chosen process lines "PARAM_SQL_STRICT_SORT_DIRECTION" texts.strict

theorem exists_areChosen (process : Bindings String) (lines : List Line) :
    ∃ texts : Texts, texts.AreChosen process lines := by
  obtain ⟨level, level_chosen⟩ := exists_chosen process lines "LOG_LEVEL"
  obtain ⟨toFile, toFile_chosen⟩ := exists_chosen process lines "PARAM_SQL_LOG_TO_FILE"
  obtain ⟨directory, directory_chosen⟩ := exists_chosen process lines "PARAM_SQL_LOG_FILE_DIR"
  obtain ⟨strict, strict_chosen⟩ :=
    exists_chosen process lines "PARAM_SQL_STRICT_SORT_DIRECTION"
  exact ⟨⟨level, toFile, directory, strict⟩, level_chosen, toFile_chosen, directory_chosen,
    strict_chosen⟩

theorem AreChosen.lookedUp {texts : Texts} (unmistakable : Unmistakable process file)
    (chosen : texts.AreChosen process file.lines) :
    texts.LookedUp ⟨process, EnvFile.parse process file.text⟩ where
  level := chosen.level.lookup?_eq unmistakable
  toFile := chosen.toFile.lookup?_eq unmistakable
  directory := chosen.directory.lookup?_eq unmistakable
  strict := chosen.strict.lookup?_eq unmistakable

theorem LookedUp.eq {environment : Environment} {texts other : Texts}
    (first : texts.LookedUp environment) (second : other.LookedUp environment) :
    texts = other := by
  cases texts
  cases other
  simp only [mk.injEq]
  exact ⟨first.level.symm.trans second.level, first.toFile.symm.trans second.toFile,
    first.directory.symm.trans second.directory, first.strict.symm.trans second.strict⟩

end Texts

theorem truthValue?_eq (word : String) :
    truthValue? word = if IsFlag word then some (isOn (some word)) else none := by
  simp only [truthValue?, IsFlag, isOn, Option.any_some, List.contains_iff_mem]
  by_cases is_true : folded word ∈ trueWords
  · simp [is_true]
  · simp [is_true]

/-- The problem with the text for a field, if there is one and it is no word for a truth value. -/
def flagProblem? (field : String) (text : Option String) : Option Problem :=
  (text.filter fun word => ¬ IsFlag word).map fun word => ⟨[field], .booleanWord, .str word⟩

/-- A truth value is read from the text that is looked up under its name. -/
theorem readFlag_eq {environment : Environment} {name : String} {text : Option String}
    (looked_up : environment.lookup? name = text) (field : String) :
    readFlag environment name field =
      match flagProblem? field text with
      | none => .ok (isOn text)
      | some problem => .error problem := by
  subst looked_up
  rw [readFlag]
  cases environment.lookup? name with
  | none => rfl
  | some word =>
    simp only [truthValue?_eq]
    by_cases flag : IsFlag word
    · simp [flagProblem?, Option.filter, flag]
    · simp [flagProblem?, Option.filter, flag]

theorem Texts.problems_eq (texts : Texts) :
    texts.problems = (flagProblem? "log_to_file" texts.toFile).toList ++
      (flagProblem? "strict_sort_direction" texts.strict).toList := by
  have each : ∀ (field : String) (text : Option String),
      ((text.toList.map (Prod.mk field)).filter fun flag => ¬ IsFlag flag.2).map
          (fun flag => (⟨[flag.1], .booleanWord, .str flag.2⟩ : Problem)) =
        (flagProblem? field text).toList := by
    intro field text
    cases text with
    | none => rfl
    | some word =>
      by_cases flag : IsFlag word
      · simp [flagProblem?, Option.filter, flag]
      · simp [flagProblem?, Option.filter, flag]
  rw [problems, flags, List.filter_append, List.map_append, each, each]

theorem Texts.problems_eq_nil_iff {texts : Texts} :
    texts.problems = [] ↔ ∀ flag ∈ texts.flags, IsFlag flag.2 := by
  simp [problems]

/-- Settings are read from the four texts that are looked up under their names, as long as all
texts for truth values are words for one. -/
theorem load_eq {environment : Environment} {texts : Texts}
    (looked_up : texts.LookedUp environment) :
    load environment =
      if ∀ flag ∈ texts.flags, IsFlag flag.2 then .ok texts.settings
      else .error ⟨"Settings", texts.problems⟩ := by
  simp only [← Texts.problems_eq_nil_iff, texts.problems_eq]
  rw [load, readLogToFile, readStrict, readFlag_eq looked_up.toFile, readFlag_eq looked_up.strict,
    readLogLevel, readLogFileDir, looked_up.level, looked_up.directory]
  -- Both flags are read, whatever the other one comes to.
  cases flagProblem? "log_to_file" texts.toFile with
  | none =>
    cases flagProblem? "strict_sort_direction" texts.strict with
    | none => rfl
    | some problem => rfl
  | some problem => cases flagProblem? "strict_sort_direction" texts.strict <;> rfl

/-! ## Other names -/

theorem isName_of_folded {own : String} (among : own ∈ names) :
    ∀ spelled, folded spelled = folded own → isName spelled = true := by
  intro spelled same
  exact List.any_eq_true.2 ⟨own, among, beq_iff_eq.2 same⟩

/-- Whether variables and lines are the same as others, those under names of no setting apart. -/
structure SameForSettings (process other : Bindings String) (lines otherLines : List Line) :
    Prop where
  ofProcess : process.filter (fun entry => isName entry.1) =
    other.filter fun entry => isName entry.1
  ofFile : lines.filter (fun line => isName line.name) =
    otherLines.filter fun line => isName line.name

/-- Variables and lines under other names change nothing of what is looked up for a setting. -/
theorem SameForSettings.lookup?_eq {other : Bindings String} {otherFile : PlainFile}
    (same : SameForSettings process other file.lines otherFile.lines)
    (unmistakable : Unmistakable process file) (other_unmistakable : Unmistakable other otherFile)
    {own : String} (among : own ∈ names) :
    (⟨other, EnvFile.parse other otherFile.text⟩ : Environment).lookup? own =
      (⟨process, EnvFile.parse process file.text⟩ : Environment).lookup? own := by
  have picked := isName_of_folded among
  have last_variable : other.last? own = process.last? own := by
    rw [← Bindings.last?_filter picked, ← same.ofProcess, Bindings.last?_filter picked]
  have filtered : ∀ file : PlainFile, file.entries.filter (fun entry => isName entry.1) =
      (file.lines.filter fun line => isName line.name).map Line.entry :=
    fun file => List.filter_map
  have last_line : otherFile.entries.last? own = file.entries.last? own := by
    rw [← Bindings.last?_filter picked, filtered, ← same.ofFile, ← filtered,
      Bindings.last?_filter picked]
  rw [Environment.lookup?, Environment.lookup?]
  simp only [last_variable, unmistakable.last?_parse, last_line, other_unmistakable.last?_parse]

theorem SameForSettings.lookedUp {other : Bindings String} {otherFile : PlainFile}
    (same : SameForSettings process other file.lines otherFile.lines)
    (unmistakable : Unmistakable process file) (other_unmistakable : Unmistakable other otherFile)
    {texts : Texts} (looked_up : texts.LookedUp ⟨process, EnvFile.parse process file.text⟩) :
    texts.LookedUp ⟨other, EnvFile.parse other otherFile.text⟩ := by
  have looked_up_again : ∀ own ∈ names, _ = _ :=
    fun own => same.lookup?_eq unmistakable other_unmistakable
  exact ⟨(looked_up_again _ (by decide)).trans looked_up.level,
    (looked_up_again _ (by decide)).trans looked_up.toFile,
    (looked_up_again _ (by decide)).trans looked_up.directory,
    (looked_up_again _ (by decide)).trans looked_up.strict⟩

end Settings

namespace Session

open Settings (Texts Unmistakable SameForSettings IsFlag isName)

section

variable [Machine]

theorem run_readFileText (session : Session) {text : String} {texts : Texts}
    (looked_up : texts.LookedUp
      ⟨session.environment.process, EnvFile.parse session.environment.process text⟩) :
    (Step.run (.readFileText text) session).1 =
      if ∀ flag ∈ texts.flags, IsFlag flag.2 then .ok (.fromFile texts.settings)
      else .error (.invalid ⟨"Settings", texts.problems⟩) := by
  rw [Step.run, Activity.get_bind_apply, Activity.bind_apply, Step.loadWith,
    Activity.get_bind_apply, Step.load, Settings.load_eq looked_up]
  by_cases flags : ∀ flag ∈ texts.flags, IsFlag flag.2
  · rw [if_pos flags, if_pos flags]
    rfl
  · rw [if_neg flags, if_neg flags]
    rfl

/-- The settings that are read with a plain settings file at hand, if no two variables or lines say
different things.

For every name there is one text, or none, that is chosen: that of the variable before that of the
last line.  The four texts for the names of settings make up the outcome: settings if the texts for
truth values are words for one, in any case, and else a report with a problem for each that is not.
So variables and lines under any other name do not matter, `PARAM_SQL_LOG_LEVEL` being one. -/
theorem settings_chosen (session : Session) (file : PlainFile)
    (unmistakable : Unmistakable session.environment.process file) :
    (∃! texts : Texts, texts.AreChosen session.environment.process file.lines) ∧
    (∀ texts : Texts, texts.AreChosen session.environment.process file.lines →
      (Step.run (.readFileText file.text) session).1 =
        if ∀ flag ∈ texts.flags, IsFlag flag.2 then .ok (.fromFile texts.settings)
        else .error (.invalid ⟨"Settings", texts.problems⟩)) ∧
    (∀ (other : Session) (otherFile : PlainFile),
      Unmistakable other.environment.process otherFile →
      SameForSettings session.environment.process other.environment.process file.lines
        otherFile.lines →
      (Step.run (.readFileText otherFile.text) other).1 =
        (Step.run (.readFileText file.text) session).1) ∧
    isName "PARAM_SQL_LOG_LEVEL" = false := by
  obtain ⟨texts, chosen⟩ := Texts.exists_areChosen session.environment.process file.lines
  have looked_up := chosen.lookedUp unmistakable
  refine ⟨⟨texts, chosen, fun other also_chosen => ?_⟩, fun other also_chosen => ?_,
    fun other otherFile other_unmistakable same => ?_, ?_⟩
  · exact (also_chosen.lookedUp unmistakable).eq looked_up
  · exact run_readFileText session (also_chosen.lookedUp unmistakable)
  · rw [run_readFileText session looked_up, run_readFileText other
      (same.lookedUp unmistakable other_unmistakable looked_up)]
  · simp [isName, Settings.names, Bindings.folded_eq]

end

/-- The level, by a name in lower case, and a truth value. -/
def hostVariables : Bindings String :=
  [("log_level", "debug"), ("PARAM_SQL_STRICT_SORT_DIRECTION", "OFF")]

def levelLine : Line :=
  ⟨"LOG_LEVEL", "warning", by simp, by simp [Text.isBlank, Text.blankRanges], by simp,
    by simp [Text.isBlank, Text.blankRanges]⟩

def wrongLine : Line :=
  ⟨"PARAM_SQL_LOG_TO_FILE", "perhaps", by simp, by simp [Text.isBlank, Text.blankRanges], by simp,
    by simp [Text.isBlank, Text.blankRanges]⟩

def rightLine : Line :=
  ⟨"PARAM_SQL_LOG_TO_FILE", "Yes", by simp, by simp [Text.isBlank, Text.blankRanges], by simp,
    by simp [Text.isBlank, Text.blankRanges]⟩

/-- A settings file with another level and two lines for one truth value, the first one wrong. -/
def projectFile : PlainFile where
  ended := [(levelLine, .both), (wrongLine, .feed)]
  last := some rightLine
  no_mark := by simp [levelLine]

theorem settings_chosen_host :
    let host := { (default : Session) with environment := ⟨hostVariables, []⟩ }
    Unmistakable host.environment.process projectFile ∧
      (Step.run (.readFileText projectFile.text) host).1 =
        .ok (.fromFile ⟨"DEBUG", true, "logs", false⟩) := by
  intro host
  have lines_eq : projectFile.lines = [levelLine, wrongLine, rightLine] := rfl
  have unmistakable : Unmistakable hostVariables projectFile := by
    constructor
    · simp [hostVariables, Bindings.folded_eq]
    · simp [Bindings.OneWay, lines_eq, levelLine, wrongLine, rightLine, Bindings.folded_eq]
  have level : Settings.Chosen hostVariables projectFile.lines "LOG_LEVEL" (some "debug") := by
    refine @Settings.Chosen.fromProcess _ _ _ "log_level" _ List.mem_cons_self ?_
    simp [Bindings.folded_eq]
  have toFile : Settings.Chosen hostVariables projectFile.lines "PARAM_SQL_LOG_TO_FILE"
      (some rightLine.text) := by
    refine @Settings.Chosen.fromFile _ _ _ [levelLine, wrongLine] [] rightLine ?_ lines_eq rfl ?_
    · simp [hostVariables, Bindings.folded_eq]
    · exact List.forall_mem_nil _
  have directory :
      Settings.Chosen hostVariables projectFile.lines "PARAM_SQL_LOG_FILE_DIR" none := by
    refine .neither ?_ ?_
    · simp [hostVariables, Bindings.folded_eq]
    · simp [lines_eq, levelLine, wrongLine, rightLine, Bindings.folded_eq]
  have strict : Settings.Chosen hostVariables projectFile.lines "PARAM_SQL_STRICT_SORT_DIRECTION"
      (some "OFF") :=
    .fromProcess (List.mem_cons_of_mem _ List.mem_cons_self) rfl
  have outcome := (settings_chosen host projectFile unmistakable).2.1
    ⟨some "debug", some rightLine.text, none, some "OFF"⟩ ⟨level, toFile, directory, strict⟩
  have flags : ∀ flag ∈ Texts.flags ⟨some "debug", some rightLine.text, none, some "OFF"⟩,
      IsFlag flag.2 := by
    simp [Texts.flags, IsFlag, rightLine, Settings.trueWords, Settings.falseWords,
      Bindings.folded_eq]
  have settings : Texts.settings ⟨some "debug", some rightLine.text, none, some "OFF"⟩ =
      ⟨"DEBUG", true, "logs", false⟩ := by
    have upper : Text.upper "debug" = "DEBUG" := by decide +kernel
    simp [Texts.settings, Settings.isOn, rightLine, Settings.trueWords, Bindings.folded_eq, upper]
  rw [if_pos flags, settings] at outcome
  exact ⟨unmistakable, outcome⟩

end Session

end SqlAssembly
