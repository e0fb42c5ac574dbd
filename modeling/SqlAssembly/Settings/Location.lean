import SqlAssembly.Fault
import SqlAssembly.Text.Path

/-!
# Where the settings file is

The settings file lies in the project's own directory under the name `.env`,
unless a path is given for it.  A given path that starts at a root is taken as
it is; any other is seen from the project's directory, so that the file never
depends on the directory in which the process runs.

A first part that starts with a tilde stands for a home directory: that of the
user, or of the account named after the tilde.  If it is unknown, or itself
starts with a tilde, there is no such path.
-/

namespace SqlAssembly

/-- The home directories that are known: the user's own and those of accounts by name. -/
structure Homes where
  /-- The user's own. -/
  own : Option String
  /-- Those of accounts, by name. -/
  accounts : List (String × String)
  deriving DecidableEq, Repr, Inhabited

/-- A place for the settings file: below the project's directory, or at a path of its own. -/
inductive Location
  | inProject (relative : Path)
  | absolute (path : Path)
  deriving DecidableEq, Repr, Inhabited

namespace Homes

/-- The home directory that a first part with a tilde stands for. -/
def directory? (homes : Homes) (part : String) : Option String :=
  if part = "~" then homes.own
  else (homes.accounts.find? fun account => "~" ++ account.1 == part).map Prod.snd

/-- A directory without the slashes at its end; the root keeps one. -/
def trimmed (directory : String) : String :=
  let cs := (directory.toList.reverse.dropWhile (· == '/')).reverse
  if cs.isEmpty then "/" else String.ofList cs

end Homes

/-- A path with its tilde replaced. -/
def Path.expanded (homes : Homes) (p : Path) : Except Fault Path :=
  match p.isAbsolute, p.parts with
  | false, first :: rest =>
    if first.toList.head? = some '~' then
      match (homes.directory? first).map Homes.trimmed with
      | none => .error .noHome
      | some directory =>
        if directory.toList.head? = some '~' then .error .noHome
        else
          let home := Path.ofString directory
          .ok ⟨home.root, home.parts ++ rest⟩
    else .ok p
  | _, _ => .ok p

namespace Location

/-- The variable that may hold a path for the settings file. -/
def variableName : String := "PARAM_SQL_ENV_FILE"

/-- The place that a path means. -/
def ofPath (p : Path) : Location := if p.isAbsolute then .absolute p else .inProject p

/-- The name of the settings file in the project's directory. -/
def standard : Location := .inProject (Path.ofString ".env")

/-- The place for the settings file, given the text of the variable; an empty one is as good as
none. -/
def find (homes : Homes) (override : Option String) : Except Fault Location :=
  match override with
  | none => .ok standard
  | some "" => .ok standard
  | some text => ((Path.ofString text).expanded homes).map ofPath

/-- The path of a place, given the project's directory. -/
def path (project : Path) : Location → Path
  | .inProject relative => project.below relative
  | .absolute p => p

example : (find ⟨some "/home/u", []⟩ (some "./~")).toOption =
    some (.absolute ⟨.single, ["home", "u"]⟩) := by
  decide +kernel

end Location

end SqlAssembly
