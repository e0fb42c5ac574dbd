import SqlAssembly.Journal.Refusal
import SqlAssembly.Report

/-!
# Faults

Everything that can go wrong, by cause.  An argument that an operation refuses
is an `InvalidArgument`: it carries the statement being built, the argument,
what is wrong with it and the value itself, so that a caller can show it.  The
other causes say that a value has not the shape an operation needs.

The wording is in one place, `Fault.message`.
-/

namespace SqlAssembly

/-- A refused argument. -/
structure InvalidArgument where
  /-- The statement being built. -/
  statement : String
  /-- The name of the argument. -/
  argument : String
  /-- What is wrong with it. -/
  detail : String
  /-- The value that was refused. -/
  value : Value
  /-- The report that led to it, if there is one. -/
  cause : Option Report
  deriving Inhabited, Repr

/-- The two questions that may be asked of the order of two values. -/
inductive OrderQuestion
  /-- Whether the left one comes before the right one. -/
  | before
  /-- Whether the left one comes after the right one. -/
  | after
  deriving DecidableEq, Repr, Inhabited

/-- The sign that asks a question. -/
def OrderQuestion.sign : OrderQuestion → String
  | .before => "<"
  | .after => ">"

/-- What went wrong. -/
inductive Fault
  /-- The value has no items to go through. -/
  | notIterable (kind : Kind)
  /-- The value holds nothing that could be looked for. -/
  | notContainer (kind : Kind)
  /-- The value has no size. -/
  | notSized (kind : Kind)
  /-- The value has no items to pick. -/
  | notSubscriptable (kind : Kind)
  /-- The value does not let an item be replaced. -/
  | notAssignable (kind : Kind)
  /-- The value has no attribute of this name. -/
  | noAttribute (kind : Kind) (name : String)
  /-- The attribute is a part of a prepared statement, which cannot be replaced. -/
  | fixedAttribute
  /-- The attribute is an operation of its kind, which cannot be replaced. -/
  | readOnlyAttribute (kind : Kind) (name : String)
  /-- The attribute is a part of a number, which cannot be replaced. -/
  | unwritableAttribute (kind : Kind) (name : String)
  /-- The attribute makes a sort direction what it is. -/
  | memberAttribute (name : String)
  /-- A value of this kind cannot be a key. -/
  | notKey (kind : Kind)
  /-- An item was picked by something else than an integer. -/
  | indexNotInteger (container index : Kind)
  /-- An item was picked beyond the end. -/
  | indexOutOfRange (container : Kind)
  /-- An item was to be replaced beyond the end. -/
  | assignmentOutOfRange
  /-- An index that no sequence can be long enough for. -/
  | indexTooLarge
  /-- The key is not in the mapping. -/
  | missingKey (key : Value)
  /-- Only the items of a sequence can be joined. -/
  | notJoinable
  /-- An item to be joined is not a text. -/
  | itemNotText (position : Nat) (kind : Kind)
  /-- The two values have no order that could be asked for. -/
  | unordered (question : OrderQuestion) (left right : Kind)
  /-- Comparing two values goes too deep. -/
  | comparisonTooDeep
  /-- A number of repetitions has to be an integer. -/
  | notRepeatable (kind : Kind)
  /-- A number of repetitions beyond every size. -/
  | repetitionTooLarge
  /-- Memory does not hold what is to be made. -/
  | outOfMemory
  /-- A value has no text, because it is too deep or has an integer that is too long. -/
  | unwritable (limit : Value.WritingLimit)
  /-- Only a text can be looked for in a text. -/
  | notSubtext (kind : Kind)
  /-- Only octets can be looked for in an octet string. -/
  | notOctets (kind : Kind)
  /-- An octet is less than 256. -/
  | octetOutOfRange
  /-- A journal line has no form for a key of this kind. -/
  | unwritableKey (kind : Kind)
  /-- A journal line has no form for so many levels. -/
  | encodingTooDeep
  /-- A journal line has no form for a collection that lies inside itself. -/
  | circular
  /-- The value is no sort direction. -/
  | notDirection (value : Value)
  /-- The text names no threshold. -/
  | unknownThreshold (value : Value)
  /-- What is shown so is no threshold. -/
  | notThreshold (shown : String)
  /-- A field has a name that is taken already where fields go to. -/
  | nameTaken (place name : String)
  /-- A variable cannot hold the character that ends texts, nor can its name. -/
  | endInVariable
  /-- The name of a variable cannot hold an equals sign. -/
  | equalsInName
  /-- A variable has a name. -/
  | namelessVariable
  /-- The home directory of an account is unknown. -/
  | noHome
  /-- The storage refuses to make a directory or a file. -/
  | storageRefused (refusal : Refusal) (path : String)
  /-- A statement could not be built, for a reason given in words. -/
  | unbuildable (statement detail : String)
  /-- An argument was refused. -/
  | invalidArgument (error : InvalidArgument)
  /-- A record could not be made. -/
  | invalid (report : Report)
  deriving Inhabited, Repr

namespace Fault

/-- A quoted kind. -/
def quotedKind (kind : Kind) : String := "'" ++ kind.name ++ "'"

/-- The name of an attribute that is not there: records quote it as a text, others as it is. -/
def attributeText (kind : Kind) (name : String) : String :=
  match kind with
  | .options _ => Text.quoted name
  | _ => "'" ++ name ++ "'"

/-- What an item of a container of this kind has to be picked by. -/
def indexRule (container index : Kind) : String :=
  match container with
  | .str | .direction => "string indices must be integers, not " ++ quotedKind index
  | .bytes => "byte indices must be integers or slices, not " ++ index.name
  | .list => "list indices must be integers or slices, not " ++ index.name
  | _ => "tuple indices must be integers or slices, not " ++ index.name

/-- What is said of an index beyond the end. -/
def rangeRule : Kind → String
  | .str | .direction => "string index out of range"
  | .bytes => "index out of range"
  | .list => "list index out of range"
  | _ => "tuple index out of range"

/-- What a failure to build a statement says. -/
def buildMessage (statement detail : String) : String :=
  "Cannot build " ++ statement ++ " statement: " ++ detail

/-- What is said of a limit that writing a value comes upon. -/
def limitRule [Machine] : Value.WritingLimit → String
  | .depth => "maximum recursion depth exceeded while getting the repr of an object"
  | .digits => "Exceeds the limit (" ++ toString Machine.digits ++ " digits) for integer string "
    ++ "conversion; use sys.set_int_max_str_digits() to increase the limit"

/-- The message of a fault. -/
def message [Machine] : Fault → String
  | .notIterable kind => quotedKind kind ++ " object is not iterable"
  | .notContainer kind => "argument of type " ++ quotedKind kind ++ " is not iterable"
  | .notSized kind => "object of type " ++ quotedKind kind ++ " has no len()"
  | .notSubscriptable kind => quotedKind kind ++ " object is not subscriptable"
  | .notAssignable kind => quotedKind kind ++ " object does not support item assignment"
  | .noAttribute kind name =>
    quotedKind kind ++ " object has no attribute " ++ attributeText kind name
  | .fixedAttribute => "can't set attribute"
  | .readOnlyAttribute kind name =>
    quotedKind kind ++ " object attribute '" ++ name ++ "' is read-only"
  | .unwritableAttribute kind name =>
    "attribute '" ++ name ++ "' of " ++ quotedKind kind ++ " objects is not writable"
  | .memberAttribute name => "<enum 'Enum'> cannot set attribute " ++ Text.quoted name
  | .notKey kind => "unhashable type: " ++ quotedKind kind
  | .indexNotInteger container index => indexRule container index
  | .indexOutOfRange container => rangeRule container
  | .assignmentOutOfRange => "list assignment index out of range"
  | .indexTooLarge => "cannot fit 'int' into an index-sized integer"
  | .missingKey key => key.literal
  | .notJoinable => "can only join an iterable"
  | .itemNotText position kind =>
    "sequence item " ++ toString position ++ ": expected str instance, " ++ kind.name ++ " found"
  | .unordered question left right =>
    "'" ++ question.sign ++ "' not supported between instances of " ++ quotedKind left ++ " and "
      ++ quotedKind right
  | .comparisonTooDeep => "maximum recursion depth exceeded in comparison"
  | .notRepeatable kind => "can't multiply sequence by non-int of type " ++ quotedKind kind
  | .repetitionTooLarge => "cannot fit 'int' into an index-sized integer"
  | .outOfMemory => ""
  | .unwritable limit => limitRule limit
  | .notSubtext kind => "'in <string>' requires string as left operand, not " ++ kind.name
  | .notOctets kind => "a bytes-like object is required, not " ++ quotedKind kind
  | .octetOutOfRange => "byte must be in range(0, 256)"
  | .unwritableKey kind => "keys must be str, int, float, bool or None, not " ++ kind.name
  | .encodingTooDeep => "maximum recursion depth exceeded while encoding a JSON object"
  | .circular => "Circular reference detected"
  | .notDirection value => value.literal ++ " is not a valid SortDirection"
  | .unknownThreshold value => "Unknown level: " ++ value.literal
  | .notThreshold shown => "Level not an integer or a valid string: " ++ shown
  | .nameTaken place name =>
    place ++ "() got multiple values for argument '" ++ name ++ "'"
  | .endInVariable => "embedded null byte"
  | .equalsInName => "illegal environment variable name"
  | .namelessVariable => "[Errno 22] Invalid argument"
  | .noHome => "Could not determine home directory."
  | .storageRefused refusal path =>
    "[Errno " ++ toString refusal.number ++ "] " ++ refusal.sentence ++ ": " ++ Text.quoted path
  | .unbuildable statement detail => buildMessage statement detail
  | .invalidArgument error => buildMessage error.statement error.detail
  | .invalid report => report.message

end Fault

/-! ## Writing -/

namespace Value

/-- Something written, unless a limit keeps it from being written. -/
def unlessLimited {α : Type} (limit : Option WritingLimit) (written : α) : Except Fault α :=
  match limit with
  | some limit => .error (.unwritable limit)
  | none => .ok written

@[simp] theorem map_unlessLimited {α β : Type} (f : α → β) (limit : Option WritingLimit)
    (written : α) : (unlessLimited limit written).map f = unlessLimited limit (f written) := by
  cases limit <;> rfl

variable [Machine]

/-- That a value can be written, or the fault that it cannot. -/
def written (v : Value) : Except Fault Unit := unlessLimited v.limit? ()

/-- Values of which every one can be written, or the fault of the first one that cannot. -/
def writable (vs : List Value) : Except Fault (List Value) :=
  unlessLimited (vs.findSome? limit?) vs

theorem written_of_limit?_eq_none {v : Value} (free : v.limit? = none) : v.written = .ok () := by
  rw [written, free, unlessLimited]

theorem writable_of_limit?_eq_none {vs : List Value} (free : ∀ v ∈ vs, v.limit? = none) :
    writable vs = .ok vs := by
  rw [writable, List.findSome?_eq_none_iff.2 free, unlessLimited]

/-- Texts are written on every machine. -/
theorem writable_map_str (ss : List String) : writable (ss.map .str) = .ok (ss.map .str) := by
  refine writable_of_limit?_eq_none fun v among => ?_
  obtain ⟨s, _, rfl⟩ := List.mem_map.1 among
  exact limit?_str s

@[simp] theorem written_str (s : String) : (Value.str s).written = .ok () :=
  written_of_limit?_eq_none (limit?_str s)

end Value

end SqlAssembly
