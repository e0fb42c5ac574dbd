import SqlAssembly.Fault
import SqlAssembly.Settings.Environment
import SqlAssembly.Text.Uppercase

/-!
# Settings

Four settings: the level from which events are written, whether they also go
to a file, the directory of that file, and whether only the two sort directions
are let through.  The level has a name of its own in the environment, shared
with the host; the names of the others start with `PARAM_SQL_`.

Each is read on its own and has a default.  The level is put in upper case.  A
truth value is one of six words for each value, in any case; any other text is
a problem, and all problems are reported together.
-/

namespace SqlAssembly

/-- The settings of the library. -/
structure Settings where
  /-- The name of the level. -/
  logLevel : String
  /-- Whether events also go to a file. -/
  logToFile : Bool
  /-- The directory of that file. -/
  logFileDir : String
  /-- Whether only the two sort directions are let through. -/
  strictSortDirection : Bool
  deriving DecidableEq, Repr, Inhabited

namespace Settings

/-- The words for true. -/
def trueWords : List String := ["1", "true", "t", "yes", "y", "on"]

/-- The words for false. -/
def falseWords : List String := ["0", "false", "f", "no", "n", "off"]

/-- The truth value that a word stands for, whatever its case. -/
def truthValue? (word : String) : Option Bool :=
  let word := Bindings.folded word
  if trueWords.contains word then some true
  else if falseWords.contains word then some false
  else none

/-- A truth value by its name, or its default; a text that is no word for one is a problem. -/
def readFlag (environment : Environment) (name field : String) : Except Problem Bool :=
  match environment.lookup? name with
  | none => .ok false
  | some word => match truthValue? word with
    | some b => .ok b
    | none => .error ⟨[field], .booleanWord, .str word⟩

/-- Whether events go to a file. -/
def readLogToFile (environment : Environment) : Except Problem Bool :=
  readFlag environment "PARAM_SQL_LOG_TO_FILE" "log_to_file"

/-- Whether only the two sort directions are let through. -/
def readStrict (environment : Environment) : Except Problem Bool :=
  readFlag environment "PARAM_SQL_STRICT_SORT_DIRECTION" "strict_sort_direction"

/-- The name of the level. -/
def readLogLevel (environment : Environment) : String :=
  Text.upper ((environment.lookup? "LOG_LEVEL").getD "INFO")

/-- The directory of the file. -/
def readLogFileDir (environment : Environment) : String :=
  (environment.lookup? "PARAM_SQL_LOG_FILE_DIR").getD "logs"

/-- The problem of a reading that failed. -/
def problem? {α : Type} : Except Problem α → Option Problem
  | .ok _ => none
  | .error p => some p

/-- The settings of an environment, or a report of every truth value that is none. -/
def load (environment : Environment) : Except Report Settings :=
  match readLogToFile environment, readStrict environment with
  | .ok toFile, .ok strict =>
    .ok ⟨readLogLevel environment, toFile, readLogFileDir environment, strict⟩
  | toFile, strict =>
    .error ⟨"Settings", (problem? toFile).toList ++ (problem? strict).toList⟩

end Settings

end SqlAssembly
