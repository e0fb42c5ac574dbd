import SqlAssembly.Build
import SqlAssembly.Journal.Basic

/-!
# The journal according to the settings

The settings say from which level events are written, whether they also go to a
file, and in which directory that file lies.  A caller may give the level
instead.  The name of the level is put in upper case wherever it comes from, that
in the settings for the second time.

When the settings cannot be read, the level is that of its own variable, which
is then looked up under the exact name and not in the settings file; no file is
written, and the directory is the default one.

The file is named for the package and the day.
-/

namespace SqlAssembly

/-- The environment in which an operation works. -/
def Build.environment : Build Environment := fun desk => (.ok desk.environment, desk)

namespace Journal

/-- The name of the level when the settings cannot be read. -/
def fallbackLevel (environment : Environment) : String :=
  Text.upper ((environment.process.get? "LOG_LEVEL").getD "INFO")

/-- What the level that the settings name stands for. -/
def plannedLevel : Build Threshold.Named := do
  match ← Build.settings with
  | .ok settings => return Threshold.named (Text.upper settings.logLevel)
  | .error _ => return Threshold.named (fallbackLevel (← Build.environment))

/-- Whether the settings ask for a file. -/
def plannedToFile : Build Bool := do
  match ← Build.settings with
  | .ok settings => return settings.logToFile
  | .error _ => return false

/-- The directory of the file when the settings cannot be read. -/
def fallbackDirectory : String := "logs"

/-- The name of the file of a day. -/
def fileName (day : String) : String := "param-sql-" ++ day ++ ".log"

/-- The file of a day in a directory. -/
def fileIn (directory day : String) : Path :=
  (Path.ofString directory).below ⟨.relative, [fileName day]⟩

/-- Where the file of the day is to be, whether the settings ask for it or not. -/
def plannedPath (day : String) : Build Path := do
  match ← Build.settings with
  | .ok settings => return fileIn settings.logFileDir day
  | .error _ => return fileIn fallbackDirectory day

variable [Machine]

/-- The threshold to configure: that of the level given, or of the one that the settings name. -/
def chosenLevel (level : Value) : Build Threshold := do
  if level.kind = .null then
    let planned ← plannedLevel
    liftM (Threshold.ofNamed planned)
  else liftM (Threshold.ofValue level)

end Journal

end SqlAssembly
