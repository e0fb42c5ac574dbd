import SqlAssembly.Journal.Severity
import SqlAssembly.Settings.Environment
import SqlAssembly.Value.Attribute
import SqlAssembly.Value.Json

/-!
# Events

An event has a name, a severity, the logger it comes from and fields, each with
a value or with a number of things that were counted.  Its line holds the fields
first, then the name, the word for the severity, the logger and the moment.  A
field of one of those names keeps its place in the line and loses its value.

One field may hold what the event was made from.  A line that has it gives the
name of that instead of the logger's, and what has no name is a fault.

A refused argument has an event of its own, with what the error says of itself:
its type, the statement, the message and the argument, and never the value.
-/

namespace SqlAssembly

/-- The names of the loggers; all lie below that of the package. -/
structure Logger where
  name : String
  deriving DecidableEq, Repr, Inhabited

namespace Logger

/-- The logger of the package. -/
def package : Logger := ⟨"param_sql"⟩

/-- The logger of clauses. -/
def clauses : Logger := ⟨"param_sql.core.clauses"⟩

/-- The logger of options. -/
def options : Logger := ⟨"param_sql.core.options"⟩

/-- The logger of values to bind. -/
def parameters : Logger := ⟨"param_sql.core.parameters"⟩

/-- The logger of counts and finds. -/
def select : Logger := ⟨"param_sql.operations.select"⟩

/-- The logger of inserts. -/
def insert : Logger := ⟨"param_sql.operations.insert"⟩

/-- The logger of updates. -/
def update : Logger := ⟨"param_sql.operations.update"⟩

/-- The logger of deletes. -/
def delete : Logger := ⟨"param_sql.operations.delete"⟩

/-- The logger of prepared statements. -/
def prepared : Logger := ⟨"param_sql.operations.prepared"⟩

/-- The loggers of the package. -/
def all : List Logger :=
  [package, clauses, options, parameters, select, insert, update, delete, prepared]

end Logger

/-- What an event says of one thing. -/
inductive Detail
  /-- A value, which somebody else may have made. -/
  | value (v : Value)
  /-- How many things there are; they fit in memory, and so their number in a line. -/
  | count (n : Nat)
  deriving Inhabited, Repr

namespace Detail

/-- What is said, as a value. -/
def toValue : Detail → Value
  | .value v => v
  | .count n => .int n

/-- What is said, as a line holds it. -/
def json [Machine] : Detail → Except Fault String
  | .value v => v.json
  | .count n => .ok (toString n)

end Detail

/-- Values under names as what an event says. -/
def Bindings.details (bindings : Bindings Value) : Bindings Detail :=
  bindings.map fun binding => (binding.1, .value binding.2)

/-- Something to be written in the journal. -/
structure Event where
  /-- Where it comes from. -/
  logger : Logger
  /-- How grave it is. -/
  severity : Severity
  /-- What happened. -/
  name : String
  /-- What is to be known of it, in order. -/
  fields : Bindings Detail
  deriving Inhabited, Repr

/-- What a line says of the time at which it is written: the moment, and the day. -/
structure Clock where
  /-- The moment, as a line holds it. -/
  moment : String
  /-- The day, as the name of a file holds it. -/
  day : String
  deriving DecidableEq, Repr, Inhabited

namespace Event

/-- The name of the field that holds what an event was made from. -/
def originField : String := "_record"

/-- What a line gives as the logger: its name, or that of what the event was made from. -/
def source (e : Event) : Except Fault Value :=
  match e.fields.get? originField with
  | none | some (.value .null) => .ok (.str e.logger.name)
  | some origin => origin.toValue.getAttribute "name"

/-- Everything that a line holds, in order, given what it gives as the logger. -/
def contents (e : Event) (source : Value) (clock : Clock) : Bindings Detail :=
  ((((e.fields.put "event" (.value (.str e.name))).put "level"
    (.value (.str e.severity.word))).put "logger" (.value source)).put "timestamp"
      (.value (.str clock.moment)))

variable [Machine]

/-- Something that a line holds: name, colon, what is said. -/
def form (binding : String × Detail) : Except Fault String :=
  binding.2.json.map fun text => Text.json binding.1 ++ ": " ++ text

/-- The line of an event. -/
def line (clock : Clock) (e : Event) : Except Fault String := do
  let source ← e.source
  let forms ← (e.contents source clock).mapM form
  return Value.braced forms

/-- An event that was made from nothing has the line of its logger. -/
theorem line_of_no_origin {e : Event} (h : e.fields.get? originField = none) (clock : Clock) :
    e.line clock =
      ((e.contents (.str e.logger.name) clock).mapM form >>= fun forms =>
        pure (Value.braced forms)) := by
  simp [line, source, h, bind, Except.bind]

end Event

/-- The type of a refused argument in events and records. -/
def InvalidArgument.typeName : String := "InvalidArgumentError"

/-- What a refused argument says of itself. -/
def InvalidArgument.fields (error : InvalidArgument) : Bindings Value :=
  [("error_type", .str typeName), ("statement", .str error.statement),
    ("message", .str error.detail), ("argument", .str error.argument)]

/-- What a fault says of itself: something only if it is a failure to build a statement. -/
def Fault.fields : Fault → Bindings Value
  | .unbuildable statement detail =>
    [("error_type", .str "SQLBuildError"), ("statement", .str statement),
      ("message", .str detail)]
  | .invalidArgument error => error.fields
  | _ => []

/-- What a fault says of itself, as a mapping with texts for keys. -/
def Fault.description (fault : Fault) : Value :=
  Value.ofEntries (fault.fields.map fun binding => (.str binding.1, binding.2))

/-- The event of a refused argument, with more fields before its own. -/
def InvalidArgument.event (logger : Logger) (before : Bindings Detail)
    (error : InvalidArgument) : Event :=
  ⟨logger, .warning, "sql.invalid_argument", before ++ error.fields.details⟩

end SqlAssembly
