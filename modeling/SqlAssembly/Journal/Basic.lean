import SqlAssembly.Journal.Event
import SqlAssembly.Journal.Hierarchy
import SqlAssembly.Journal.Storage

/-!
# The journal

The journal holds what loggers write.  Each logger may have a threshold of its
own, and otherwise has that of the nearest logger above it; the root starts at
the threshold of warnings.  An event below its logger's threshold is dropped
before it is written out, so that one that has no written form does no harm
there.

A line goes to the handlers of the package, if its logger stands in the
package's tree, and always to those of the root.  Each handler has a threshold
of its own; a handler writes to the error stream or to a file.  Besides, the
root keeps every line.  Nothing here adds to the handlers of the root or takes
from them.

Configuring sets the package's threshold, then makes the handlers, then
attaches them.  Storage may refuse to make the file or its directory; the
handlers are not attached then, but the threshold is set already.
-/

namespace SqlAssembly

/-- Where the lines of a handler go. -/
inductive Target
  | stream
  | file (path : Path)
  deriving DecidableEq, Repr, Inhabited

/-- A handler: where its lines go, and which of them. -/
structure Handler where
  /-- Where its lines go. -/
  target : Target
  /-- Which events it writes. -/
  threshold : Threshold
  deriving DecidableEq, Repr, Inhabited

/-- What loggers have written, and how they write. -/
structure Journal where
  /-- The names of the loggers that are known. -/
  loggers : List String
  /-- The thresholds that loggers were given, by name. -/
  thresholds : Bindings Threshold
  /-- The handlers of the package, oldest first. -/
  handlers : List Handler
  /-- The handlers of the root, oldest first. -/
  rootHandlers : List Handler
  /-- The lines that reached the root. -/
  captured : List String
  /-- The lines on the error stream. -/
  stream : List String
  /-- Where the files are. -/
  storage : Storage
  deriving DecidableEq, Repr, Inhabited

namespace Journal

/-- A journal in which nothing is written and nothing configured; it knows the package's loggers. -/
def fresh (storage : Storage) : Journal :=
  ⟨Logger.all.map Logger.name, [], [], [], [], [], storage⟩

/-- The journal with a logger known. -/
def introduce (journal : Journal) (name : String) : Journal :=
  if journal.loggers.contains name then journal
  else { journal with loggers := journal.loggers ++ [name] }

/-! ## Thresholds -/

/-- The threshold that a logger was given; the root starts at that of warnings. -/
def ownThreshold (journal : Journal) (name : String) : Threshold :=
  match journal.thresholds.get? name with
  | some t => t
  | none => if name = Logger.rootName then .rank Severity.warning.rank else .rank 0

/-- The threshold in force for a logger: the first of its chain that is not zero. -/
def effective (journal : Journal) (name : String) : Int :=
  let thresholds := (Logger.chain journal.loggers name).map fun n => (journal.ownThreshold n).toInt
  (thresholds.find? (· != 0)).getD 0

/-- Whether events of a severity are written for a logger. -/
def isEnabled (journal : Journal) (name : String) (severity : Severity) : Bool :=
  decide (journal.effective name ≤ severity.rank)

/-- The journal with a threshold given to a logger. -/
def setThreshold (journal : Journal) (name : String) (threshold : Threshold) : Journal :=
  { journal with
    thresholds := journal.thresholds.put (Logger.canonicalName name) threshold }

/-! ## Writing -/

/-- A line written by one handler, if the severity passes its threshold. -/
def handle (severity : Severity) (line : String) (journal : Journal) (handler : Handler) :
    Journal :=
  if handler.threshold.passes severity then
    match handler.target with
    | .stream => { journal with stream := journal.stream ++ [line] }
    | .file path => { journal with storage := journal.storage.append path line }
  else journal

/-- Whether a logger stands in the tree of the package. -/
def inPackage (journal : Journal) (name : String) : Bool :=
  (Logger.chain journal.loggers name).contains Logger.package.name

/-- The handlers that a line of a logger comes to: those of the package, if the logger stands in
its tree, and those of the root. -/
def handlersOf (journal : Journal) (name : String) : List Handler :=
  (if journal.inPackage name then journal.handlers else []) ++ journal.rootHandlers

/-- A line written by every handler that it comes to, and kept by the root. -/
def deliver (journal : Journal) (name : String) (severity : Severity) (line : String) : Journal :=
  let handled := (journal.handlersOf name).foldl (handle severity line) journal
  { handled with captured := handled.captured ++ [line] }

section

variable [Machine]

/-- An event written if its logger writes events of its severity; it may have no written form. -/
def publish (clock : Clock) (journal : Journal) (event : Event) : Except Fault Journal :=
  if journal.isEnabled event.logger.name event.severity then
    (event.line clock).map (journal.deliver event.logger.name event.severity)
  else .ok journal

/-- Events written one after the other, up to the first that has no written form. -/
def publishAll (clock : Clock) (journal : Journal) : List Event → Option Fault × Journal
  | [] => (none, journal)
  | event :: rest => match journal.publish clock event with
    | .ok next => publishAll clock next rest
    | .error fault => (some fault, journal)

end

/-! ## Configuring -/

/-- The handlers for a threshold: one for the stream, and one for the file if there is one. -/
def handlersFor (threshold : Threshold) (file : Option Path) : List Handler :=
  ⟨.stream, threshold⟩ :: file.toList.map fun path => ⟨.file path, threshold⟩

/-- The storage with the file of a handler in it. -/
def created (journal : Journal) : Option Path → Except Fault Storage
  | none => .ok journal.storage
  | some path => journal.storage.create path

/-- Handlers attached to the package; they are the result. -/
def attach (journal : Journal) (threshold : Threshold) (file : Option Path) :
    Except Fault (List Handler) × Journal :=
  match journal.created file with
  | .error fault => (.error fault, journal)
  | .ok storage =>
    let made := handlersFor threshold file
    (.ok made, { journal with handlers := journal.handlers ++ made, storage := storage })

/-- The journal without handlers on the package. -/
def removeHandlers (journal : Journal) : Journal := { journal with handlers := [] }

@[simp] theorem captured_handle (severity : Severity) (line : String) (journal : Journal)
    (handler : Handler) : (handle severity line journal handler).captured = journal.captured := by
  unfold handle
  split
  · split <;> rfl
  · rfl

theorem captured_foldl_handle (severity : Severity) (line : String) (handlers : List Handler)
    (journal : Journal) :
    (handlers.foldl (handle severity line) journal).captured = journal.captured := by
  induction handlers generalizing journal with
  | nil => rfl
  | cons handler rest ih => rw [List.foldl_cons, ih, captured_handle]

/-- The root keeps a line exactly once, whatever handlers there are. -/
theorem captured_deliver (journal : Journal) (name : String) (severity : Severity)
    (line : String) :
    (journal.deliver name severity line).captured = journal.captured ++ [line] := by
  simp only [deliver, captured_foldl_handle]

end Journal

end SqlAssembly
