import SqlAssembly.Session.Basic

/-!
# Messages

A host may write in the journal itself.  A message starts from a context, which
grows by what is bound to it and shrinks by what is unbound; the fields of the
event come last.  A name that is there already keeps its place and gets the
later value.  Only what is bound can be unbound.

A message comes from the logger that it names, or else from that of the package
with a context of its own.

Some names of fields are taken where the fields go to, and a field of such a
name is a fault: one name when fields are bound, and three in the fields that
come last.
-/

namespace SqlAssembly

/-- An event of the host, with the context that it starts from. -/
structure Message where
  /-- The logger, if one is named. -/
  logger : Option String
  /-- What it starts from. -/
  context : List (String × Term)
  /-- What is bound to it, one after the other. -/
  bound : List (List (String × Term))
  /-- What is unbound after that. -/
  unbound : List (List String)
  /-- How grave it is. -/
  severity : Severity
  /-- What happened. -/
  name : String
  /-- The fields that come last. -/
  fields : List (String × Term)
  deriving Inhabited, Repr

namespace Message

/-- Bindings with more of them put one after the other. -/
def extended (bindings more : Bindings Value) : Bindings Value :=
  more.foldl (fun bindings binding => bindings.put binding.1 binding.2) bindings

/-- Bindings without names, each of which has to be there. -/
def reduced (bindings : Bindings Value) : List String → Except Fault (Bindings Value)
  | [] => .ok bindings
  | name :: rest => match bindings.get? name with
    | some _ => reduced (bindings.erase name) rest
    | none => .error (.missingKey (.str name))

variable [Machine]

/-- The values of named terms. -/
def evaluated (fields : List (String × Term)) : Activity (Bindings Value) :=
  fields.mapM fun field => return (field.1, ← Session.evaluate field.2)

/-- Fields with none of some names; the first field of one of them is a fault. -/
def withoutNames (place : String) (taken : List String) (fields : Bindings Value) :
    Except Fault (Bindings Value) :=
  match fields.find? fun field => taken.contains field.1 with
  | some field => .error (.nameTaken place field.1)
  | none => .ok fields

/-! ## Binding -/

/-- The name of the logger of a message. -/
def source (message : Message) : String :=
  Logger.canonicalName (message.logger.getD Logger.package.name)

/-- What is bound in turn: the context first, which a message with a named logger has not. -/
def rounds (message : Message) : List (List (String × Term)) :=
  if message.logger.isSome then message.bound else message.context :: message.bound

/-- Where the fields of a round go to, by its position. -/
def binder : Nat → String
  | 0 => "BoundLoggerLazyProxy.bind"
  | _ => "BoundLogger.bind"

/-- A context with the fields of rounds bound to it, the first round at a given position. -/
def bindRounds (position : Nat) (context : Bindings Value) :
    List (List (String × Term)) → Activity (Bindings Value)
  | [] => return context
  | round :: rest => do
    let fields ← evaluated round
    let fields ← liftM (withoutNames (binder position) ["self"] fields)
    bindRounds (position + 1) (extended context fields) rest

/-- The context of a message when everything was bound and unbound. -/
def settledContext (message : Message) : Activity (Bindings Value) := do
  let context ← bindRounds 0 [] message.rounds
  liftM (reduced context message.unbound.flatten)

/-! ## Writing -/

/-- The fields that come last, if their names are free. -/
def lastFields (severity : Severity) (fields : Bindings Value) :
    Except Fault (Bindings Value) := do
  let fields ← withoutNames ("BoundLogger." ++ severity.word) ["self", "event"] fields
  withoutNames "BoundLogger._proxy_to_logger" ["method_name"] fields

/-- The event of a message. -/
def event (message : Message) : Activity Event := do
  let context ← message.settledContext
  let fields ← evaluated message.fields
  let fields ← liftM (lastFields message.severity fields)
  return ⟨⟨message.source⟩, message.severity, message.name, (extended context fields).details⟩

/-- A message written in the journal, to which its logger gets known. -/
def write (message : Message) : Activity Unit := do
  Session.changeJournal (·.introduce message.source)
  let event ← message.event
  Session.work (Build.emit event)

end Message

end SqlAssembly
