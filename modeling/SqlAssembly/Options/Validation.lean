import SqlAssembly.Options.Record
import SqlAssembly.Report
import SqlAssembly.Value.Sequence

/-!
# Validation of options

A mapping is made into an options record field by field.  `sort` is a mapping
of texts to texts, `limit` and `offset` are integers that are not negative, and
`projections` is a list of texts; each may be empty.  A sort direction counts
as its token and an octet string as the text it encodes.  Truth values are not
integers here.

Every fault is found: first those of the fields, in the order of the kind, then
the keys that name no field, in the order of the mapping.  In a mapping of
texts the fault of a key comes before that of its value.

The record holds copies: the mapping under `sort` and the list under
`projections` are new ones.
-/

namespace SqlAssembly.Options

/-! ## Texts -/

/-- The text that octets encode, if they encode one. -/
def decoded? (octets : List UInt8) : Option String := String.fromUTF8? ⟨octets.toArray⟩

/-- The text that a value stands for, or the rule that it breaks. -/
def asText (v : Value) : Except Rule String :=
  match v.text?, v.octets? with
  | some s, _ => .ok s
  | none, some octets => match decoded? octets with
    | some s => .ok s
    | none => .error .decodableText
  | none, none => .error .text

/-- The problem of a value that should stand for a text, if it has one. -/
def textProblem? (location : List String) (v : Value) : Option Problem :=
  match asText v with
  | .ok _ => none
  | .error rule => some ⟨location, rule, v⟩

/-- The text that a value stands for; nothing for one that stands for none. -/
def textOf (v : Value) : String :=
  match asText v with
  | .ok s => s
  | .error _ => ""

/-! ## Fields -/

section

variable [Machine]

/-- A key as a part of a location: a text as it is, an integer in digits, else the literal. -/
def keyPart (key : Value) : String :=
  match key.text?, key.integer? with
  | some s, _ => s
  | none, some n => (Value.int n).shown
  | none, none => key.shown

/-- The problems of an entry of a mapping of texts: the key's, then the value's. -/
def entryProblems (entry : Value × Value) : List Problem :=
  let part := keyPart entry.1
  (textProblem? [part, "[key]"] entry.1).toList ++ (textProblem? [part] entry.2).toList

/-- The mapping of texts that entries stand for; of two equal keys the later value counts. -/
def textEntries (entries : Entries) : Entries :=
  Entries.ofList (entries.map fun entry => (.str (textOf entry.1), .str (textOf entry.2)))

/-- A value for `sort`, or its problems. -/
def readSort : Value → Except (List Problem) Value
  | .null => .ok .null
  | .mapping _ entries => match entries.flatMap entryProblems with
    | [] => .ok (Value.ofEntries (textEntries entries))
    | problems => .error problems
  | v => .error [⟨[], .mapping, v⟩]

/-- A value for `limit` or `offset`, or its problem. -/
def readCount : Value → Except (List Problem) Value
  | .null => .ok .null
  | .int n => if 0 ≤ n then .ok (.int n) else .error [⟨[], .notNegative, .int n⟩]
  | v => .error [⟨[], .integer, v⟩]

/-- The items of a value for `projections`.

A mapping, a text and an octet string have items too, but are no lists.  Of the kinds of values
there are, every other one with items counts as a list of them. -/
def listItems? (v : Value) : Option (List Value) :=
  match v with
  | .mapping .. => none
  | .str _ => none
  | .direction _ => none
  | .bytes _ => none
  | _ => v.items?

/-- The problems of items that should be texts, the first one at a given position. -/
def itemProblems (position : Nat) : List Value → List Problem
  | [] => []
  | v :: vs => (textProblem? [toString position] v).toList ++ itemProblems (position + 1) vs

/-- A value for `projections`, or its problems. -/
def readProjections (v : Value) : Except (List Problem) Value :=
  match v.kind, listItems? v with
  | .null, _ => .ok .null
  | _, some vs => match itemProblems 0 vs with
    | [] => .ok (Value.ofItems (vs.map fun v => .str (textOf v)))
    | problems => .error problems
  | _, none => .error [⟨[], .sequence, v⟩]

/-- A value for a field, or its problems. -/
def readField : OptionField → Value → Except (List Problem) Value
  | .sort => readSort
  | .limit => readCount
  | .offset => readCount
  | .projections => readProjections

/-! ## Records -/

/-- The value for a field of a mapping, or its problems; a field that is not there is empty. -/
def readEntry (entries : Entries) (f : OptionField) : Except (List Problem) Value :=
  match entries.getText? f.name with
  | none => .ok .null
  | some v => match readField f v with
    | .ok w => .ok w
    | .error problems => .error (problems.map (·.within f.name))

/-- The problems of a field of a mapping. -/
def fieldProblems (entries : Entries) (f : OptionField) : List Problem :=
  match readEntry entries f with
  | .ok _ => []
  | .error problems => problems

/-- The value for a field of a mapping; nothing if it has problems. -/
def fieldValue (entries : Entries) (f : OptionField) : Value :=
  match readEntry entries f with
  | .ok v => v
  | .error _ => .null

/-- The problem of a key that names no field of the kind. -/
def keyProblem? (kind : OptionsKind) (entry : Value × Value) : Option Problem :=
  match entry.1.text? with
  | some name => match kind.field? name with
    | some _ => none
    | none => some ⟨[name], .knownName, entry.2⟩
  | none => some ⟨[keyPart entry.1], .textName, entry.1⟩

/-- Every problem of a mapping: those of the fields, then those of the keys. -/
def problems (kind : OptionsKind) (entries : Entries) : List Problem :=
  kind.fields.flatMap (fieldProblems entries) ++ entries.filterMap (keyProblem? kind)

/-- The value for a field of a record of a kind. -/
def recordValue (kind : OptionsKind) (entries : Entries) (f : OptionField) : Value :=
  if kind.fields.contains f then fieldValue entries f else .null

/-- The record that a mapping without problems describes. -/
def record (kind : OptionsKind) (entries : Entries) : Options where
  cell := none
  kind := kind
  given := kind.fields.filter fun f => (entries.getText? f.name).isSome
  sort := recordValue kind entries .sort
  limit := recordValue kind entries .limit
  offset := recordValue kind entries .offset
  projections := recordValue kind entries .projections

/-- The record that a mapping describes, or a report of every problem. -/
def ofEntries (kind : OptionsKind) (entries : Entries) : Except Report Options :=
  match problems kind entries with
  | [] => .ok (record kind entries)
  | found => .error ⟨kind.name, found⟩

end

end SqlAssembly.Options
