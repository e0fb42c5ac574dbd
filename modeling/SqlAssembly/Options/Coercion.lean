import SqlAssembly.Build
import SqlAssembly.Options.Plain
import SqlAssembly.Options.Validation

/-!
# Options arguments

An operation takes its options as nothing, as a record, or as a mapping, and
works with a record of the kind that it needs.  A record of that very kind is
taken as it is.  One of the other kind is taken as the plain mapping of what it
was given, so that a field which the needed kind lacks is reported and not lost.

Anything else is refused, and so is a mapping with problems; the error of the
latter quotes the whole report.
-/

namespace SqlAssembly.Options

variable [Machine]

/-- The error of an argument that is neither a record nor a mapping. -/
def notMapping (kind : OptionsKind) (statement : String) (options : Value) :
    InvalidArgument where
  statement := statement
  argument := "options"
  detail := "options must be a mapping or " ++ kind.name ++ ", got " ++ options.kind.name
  value := options
  cause := none

/-- The error of a mapping with problems. -/
def withProblems (statement : String) (entries : Entries) (report : Report) :
    InvalidArgument where
  statement := statement
  argument := "options"
  detail := "invalid options: " ++ report.message
  value := Value.ofEntries entries
  cause := some report

/-- An argument with a mapping in the place of a record of the other kind. -/
def asNeeded (kind : OptionsKind) (options : Value) : Except Fault Value :=
  match options.kind with
  | .options given => if given = kind then .ok options else options.plain
  | _ => .ok options

/-- The record that an argument stands for, or the error with which it is refused. -/
def ofArgument (kind : OptionsKind) (statement : String) (options : Value) :
    Except InvalidArgument Options :=
  match options.kind, ofValue? options with
  | .null, _ => .ok (blank kind)
  | _, some o => .ok o
  | _, none => match options with
    | .mapping _ entries => match ofEntries kind entries with
      | .ok made => .ok made
      | .error report => .error (withProblems statement entries report)
    | _ => .error (notMapping kind statement options)

/-- The operation that takes an options argument; it records the error of a refused one. -/
def coerce (options : Value) (kind : OptionsKind) (statement : String) : Build Options := do
  let options ← liftM (asNeeded kind options)
  match ofArgument kind statement options with
  | .ok o => return o
  | .error error => Build.refuse .options [] error

/-- A record is taken as it is. -/
theorem ofArgument_toValue (o : Options) (kind : OptionsKind) (statement : String) :
    ofArgument kind statement o.toValue = .ok o := by
  simp [ofArgument, toValue, Value.kind, ofValue?]

omit [Machine] in
/-- A record of the needed kind stays a record. -/
theorem asNeeded_toValue (o : Options) : asNeeded o.kind o.toValue = .ok o.toValue := by
  simp [asNeeded, toValue, Value.kind]

theorem ofArgument_mapping (kind : OptionsKind) (statement : String) (cell : Cell)
    (entries : Entries) :
    ofArgument kind statement (.mapping cell entries) = match ofEntries kind entries with
      | .ok made => .ok made
      | .error report => .error (withProblems statement entries report) := rfl

end SqlAssembly.Options
