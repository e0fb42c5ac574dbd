import SqlAssembly.Session.Message
import SqlAssembly.Settings.EnvFile
import SqlAssembly.Value.Attribute

/-!
# Steps

What a host can do in a session: perform an operation, look after the settings
and the journal, and keep and change values.  A step has a result or a fault,
and a fault does not end the session.
-/

namespace SqlAssembly

/-- Something a host does in a session. -/
inductive Step
  /-- Performs an operation and keeps the result, if a name is given. -/
  | perform (operation : Operation Term) (name : Option String)
  /-- Makes an options record and keeps it, if a name is given. -/
  | coerce (kind : OptionsKind) (statement : String) (options : Term) (name : Option String)
  /-- Makes a sort direction. -/
  | direction (token : Term)
  /-- Describes a failure to build a statement. -/
  | describeUnbuildable (statement detail : String)
  /-- Describes a refused argument. -/
  | describeRefused (statement argument detail : String) (argued : Term)
  /-- Reads the settings from the variables alone. -/
  | readSettings
  /-- Gives the settings in force. -/
  | currentSettings
  /-- Forgets the settings. -/
  | forgetSettings
  /-- Finds the settings file, when there is no such file, and reads the settings. -/
  | locateFile (path : Option String)
  /-- Reads the settings with a settings file of some text. -/
  | readFileText (text : String)
  /-- Sets a variable of the environment. -/
  | setVariable (name text : String)
  /-- Unsets a variable of the environment. -/
  | unsetVariable (name : String)
  /-- Says how the journal would be configured. -/
  | planJournal
  /-- Configures the journal. -/
  | configureJournal (level : Term)
  /-- Gives a logger a threshold. -/
  | setThreshold (logger : String) (level : Term)
  /-- Removes the handlers from the journal. -/
  | removeHandlers
  /-- Writes a message in the journal. -/
  | write (message : Message)
  /-- Takes the lines that were written to the error stream. -/
  | takeStream
  /-- Lists the files in the working directory. -/
  | listFiles
  /-- Keeps a value under a name. -/
  | keep (name : String) (term : Term)
  /-- Gives the value under a name. -/
  | lookUp (name : String)
  /-- Replaces an item of a list or a mapping. -/
  | replaceItem (target key item : Term)
  /-- Replaces an attribute of a value, which only works if it is a note. -/
  | replaceAttribute (target : Term) (name : String) (value : Term)
  /-- Gives an attribute of a value and keeps it, if a name is given. -/
  | readAttribute (target : Term) (name : String) (kept : Option String)
  /-- Compares two values. -/
  | compare (left right : Term)
  deriving Inhabited, Repr

/-- What a step yields. -/
inductive Result
  /-- A value; nothing, if there is nothing to say. -/
  | value (v : Value)
  /-- Settings. -/
  | settings (settings : Settings)
  /-- The settings in force, which stay the same until they are forgotten. -/
  | current (settings : Settings)
  /-- Where the settings file is, and the settings. -/
  | located (location : Location) (settings : Settings)
  /-- Settings that were read with a settings file at hand. -/
  | fromFile (settings : Settings)
  /-- An options record, whether it is the one given, and its literal. -/
  | coerced (options : Value) (same : Bool) (literal : String)
  /-- A fault, what it says of itself, and what it was made with. -/
  | described (fault : Fault) (description arguments : Value)
  /-- How the journal would be configured. -/
  | plan (level : Value) (toFile : Bool) (file : Path)
  /-- The new handlers, the number of all handlers, and the package's threshold. -/
  | configured (made : List Handler) (attached : Nat) (threshold : Threshold)
  /-- The lines of every file. -/
  | files (files : List (Path × List String))
  deriving Inhabited, Repr

namespace Step

/-- A fault, if there is one. -/
def refuse : Option Fault → Activity Unit
  | some fault => throw fault
  | none => return ()

/-! ## Values -/

/-- What a value gives away under a name: a note, or else an attribute. -/
def attributeOf (target : Value) (name : String) : Activity Value := do
  let session ← get
  match session.store.note? target name with
  | some note => return note
  | none => liftM (target.getAttribute name)

/-- A note made on a value, if it takes one under this name. -/
def makeNote (target : Value) (name : String) (v : Value) : Activity Unit :=
  if target.takesNote name then
    modify fun session => { session with store := session.store.addNote target name v }
  else throw (target.replacementFault name v)

variable [Machine]

/-- The sort direction that a token stands for. -/
def directionOf (token : Value) : Except Fault Value :=
  match token.text?.bind Direction.ofToken? with
  | some d => .ok (.direction d)
  | none => token.written >>= fun _ => .error (.notDirection token)

/-- Whether an argument is a record of the needed kind already. -/
def isRecordOf (kind : OptionsKind) (options : Value) : Bool := options.kind == .options kind

/-! ## Settings -/

/-- The settings of an environment, or the fault that there are none. -/
def load (environment : Environment) : Except Fault Settings :=
  match Settings.load environment with
  | .ok settings => .ok settings
  | .error report => .error (.invalid report)

/-- The settings in force, or the fault that there are none. -/
def current : Build Settings := do
  match ← Build.settings with
  | .ok settings => return settings
  | .error report => Build.fail (.invalid report)

/-- The settings of the variables of a session and the entries of a settings file. -/
def loadWith (file : Bindings (Option String)) : Activity Settings := do
  let session ← get
  liftM (load { session.environment with file := file })

/-! ## The environment -/

/-- Why a variable cannot be set, if it cannot. -/
def variableFault? (name text : String) : Option Fault :=
  if (name.toList ++ text.toList).contains '\x00' then some .endInVariable
  else if name.toList.contains '=' then some .equalsInName
  else if name.isEmpty then some .namelessVariable
  else none

/-- Why there can be no search for a settings file in a place, if there cannot.

What keeps one in the project's directory from being found depends on where that directory is. -/
def searchFault? (storage : Storage) : Location → Option Fault
  | .inProject _ => none
  | .absolute p => (storage.searchRefusal? p).map fun refusal =>
    .storageRefused refusal p.toString

/-- The place of the settings file, given the text of the variable for it. -/
def located (text : Option String) : Activity Location := do
  let session ← get
  refuse (text.bind (variableFault? Location.variableName))
  let location ← liftM (Location.find session.knownHomes text)
  refuse (searchFault? session.journal.storage location)
  return location

/-- A variable set, if it can be. -/
def setVariableTo (name text : String) : Activity Unit := do
  refuse (variableFault? name text)
  Session.changeEnvironment (·.set name text)

/-! ## The journal -/

/-- A directory made in storage. -/
def makeDirectory (p : Path) : Activity Unit := do
  let session ← get
  let (fault, storage) := session.journal.storage.makeDirectory p
  set { session with journal := { session.journal with storage := storage } }
  refuse fault

/-- The file of the day, in a directory that is made for it. -/
def logFile : Activity Path := do
  let session ← get
  let file ← Session.work (Journal.plannedPath session.clock.day)
  makeDirectory file.parent
  return file

/-- How the journal would be configured; the directory of the file is made. -/
def plan : Activity Result := do
  let level ← Session.work Journal.plannedLevel
  let toFile ← Session.work Journal.plannedToFile
  let file ← logFile
  return .plan (← liftM level.toValue) toFile file

/-- The file to write to, if the settings ask for one. -/
def chosenFile : Activity (Option Path) := do
  if ← Session.work Journal.plannedToFile then return some (← logFile) else return none

/-- Handlers attached to the package. -/
def attach (threshold : Threshold) (file : Option Path) : Activity Result := do
  let session ← get
  let (made, journal) := session.journal.attach threshold file
  set { session with journal := journal }
  let made ← liftM made
  return .configured made journal.handlers.length (journal.ownThreshold Logger.package.name)

/-- The journal configured for a level. -/
def configure (level : Value) : Activity Result := do
  let threshold ← Session.work (Journal.chosenLevel level)
  Session.changeJournal (·.setThreshold Logger.package.name threshold)
  let file ← chosenFile
  attach threshold file

/-- The lines of the error stream, which then is empty. -/
def drained : Activity Value := do
  let session ← get
  set { session with journal := { session.journal with stream := [] } }
  return Value.ofItems (session.journal.stream.map .str)

/-! ## Steps -/

/-- Nothing to say. -/
def done : Result := .value .null

/-- A step done in a session. -/
def run : Step → Activity Result
  | .perform operation name => do
    let operation ← operation.mapM Session.evaluate
    let v ← Session.work operation.run
    Session.keep name v
    return .value v
  | .coerce kind statement options name => do
    let argument ← Session.evaluate options
    let record ← Session.work (Options.coerce argument kind statement)
    let v := record.toValue
    Session.keep name v
    return .coerced v (isRecordOf kind argument) v.literal
  | .direction token => do
    let token ← Session.evaluate token
    return .value (← liftM (directionOf token))
  | .describeUnbuildable statement detail =>
    let fault := Fault.unbuildable statement detail
    return .described fault fault.description (Value.ofParts [.str detail])
  | .describeRefused statement argument detail argued => do
    let fault := Fault.invalidArgument
      ⟨statement, argument, detail, ← Session.evaluate argued, none⟩
    return .described fault fault.description (Value.ofParts [.str detail])
  | .readSettings => return .settings (← loadWith [])
  | .currentSettings => return .current (← Session.work current)
  | .forgetSettings => do
    modify fun session => { session with cache := none }
    return done
  | .locateFile path => do
    let location ← located path
    return .located location (← loadWith [])
  | .readFileText text => do
    let session ← get
    return .fromFile (← loadWith (EnvFile.parse session.environment.process text))
  | .setVariable name text => do
    setVariableTo name text
    return done
  | .unsetVariable name => do
    Session.changeEnvironment (·.unset name)
    return done
  | .planJournal => plan
  | .configureJournal level => do
    let level ← Session.evaluate level
    configure level
  | .setThreshold logger level => do
    let level ← Session.evaluate level
    Session.changeJournal (·.introduce (Logger.canonicalName logger))
    let threshold ← liftM (Threshold.ofValue level)
    Session.changeJournal (·.setThreshold logger threshold)
    return done
  | .removeHandlers => do
    Session.changeJournal (·.removeHandlers)
    return done
  | .write message => do
    message.write
    return done
  | .takeStream => return .value (← drained)
  | .listFiles => do
    let session ← get
    return .files (session.journal.storage.files.filter fun file => Storage.isInside file.1)
  | .keep name term => do
    let v ← Session.evaluate term
    Session.keep (some name) v
    return done
  | .lookUp name => do
    return .value (← Session.evaluate (.kept name))
  | .replaceItem target key item => do
    let item ← Session.evaluate item
    let target ← Session.evaluate target
    let key ← Session.evaluate key
    let changed ← liftM (target.withItem key item)
    modify fun session => { session with store := session.store.change changed }
    return done
  | .replaceAttribute target name v => do
    let target ← Session.evaluate target
    let v ← Session.evaluate v
    makeNote target name v
    return done
  | .readAttribute target name kept => do
    let target ← Session.evaluate target
    let v ← attributeOf target name
    Session.keep kept v
    return .value v
  | .compare left right => do
    let left ← Session.evaluate left
    let right ← Session.evaluate right
    return .value (.bool (← liftM (left.compared right)))

end Step

/-- What a step came to, and the lines that reached the root of the journal meanwhile. -/
structure Answer where
  /-- The result or the fault. -/
  outcome : Except Fault Result
  /-- The lines, oldest first. -/
  lines : List String
  deriving Inhabited

namespace Session

variable [Machine]

/-- A step done in a session, with its lines. -/
def answer (session : Session) (step : Step) : Answer × Session :=
  let (outcome, after) :=
    step.run { session with journal := { session.journal with captured := [] } }
  (⟨outcome, after.journal.captured⟩, after)

/-- Steps done one after the other, whatever they come to. -/
def answers (session : Session) : List Step → List Answer × Session
  | [] => ([], session)
  | step :: rest =>
    let (first, session) := session.answer step
    let (more, session) := session.answers rest
    (first :: more, session)

end Session

end SqlAssembly
