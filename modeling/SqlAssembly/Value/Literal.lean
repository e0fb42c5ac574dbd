import SqlAssembly.Machine
import SqlAssembly.Number.Shortest
import SqlAssembly.Text.Quoted
import SqlAssembly.Value.Basic

/-!
# The texts of a value

A value has two texts.  Its *literal* is what messages quote: texts stand
between quotes, sequences between brackets, mappings between braces.  Its
*display* is what a statement takes in: a text displays as itself, a sort
direction as its full name, an options record as its fields, and any other
value as its literal.

A tuple of one item has a comma after it.  Numbers with a point keep it, so
that they differ from integers; from ten to the sixteenth on, and below one
ten-thousandth, they have a power of ten.

A collection that lies inside itself is not written out there again: three
points stand for what it holds.

Not every value is written on every machine.  One of too many levels is not, nor
is one with an integer of too many digits; `limit?` is the bound that writing a
value comes upon first.
-/

namespace SqlAssembly

namespace Value

/-- Numbers in literals: a point from `10 ^ -4` up to `10 ^ 16`, else a power of ten after `e`. -/
def literalNumber : NumberLayout := ⟨-4, 16, "e", "nan", "inf"⟩

/-- The name of a direction among the directions. -/
def directionName (d : Direction) : String := "SortDirection." ++ d.token

/-- A sequence of texts between parentheses; a single one has a comma after it. -/
def parenthesized : List String → String
  | [text] => "(" ++ text ++ ",)"
  | texts => "(" ++ ", ".intercalate texts ++ ")"

/-- The fields of an options record with their texts: name, equals sign, text. -/
def fieldTexts (between : String) (kind : OptionsKind) (sort limit offset projections : String) :
    String :=
  between.intercalate (List.zipWith (fun field text => field.name ++ "=" ++ text) kind.fields
    [sort, limit, offset, projections])

/-- A prepared statement with the text of its parameters. -/
def preparedText (sql params : String) : String :=
  Kind.prepared.name ++ "(sql=" ++ Text.quoted sql ++ ", params=" ++ params ++ ")"

/-- Whether a value lives in one of the cells around it. -/
def isWithin (around : List Nat) : Cell → Bool
  | some cell => around.contains cell
  | none => false

/-- The cells around what a collection holds. -/
def inside (around : List Nat) : Cell → List Nat
  | some cell => cell :: around
  | none => around

mutual

/-- The text of a value in messages, given the cells of the collections around it. -/
def literalWithin (around : List Nat) : Value → String
  | .null => "None"
  | .bool b => if b then "True" else "False"
  | .int n => toString n
  | .float _ x => x.text literalNumber
  | .str s => Text.quoted s
  | .bytes octets => Text.quotedOctets octets
  | .direction d => "<" ++ directionName d ++ ": " ++ Text.quoted d.token ++ ">"
  | .list cell items =>
    if isWithin around cell then "[...]"
    else "[" ++ ", ".intercalate (literalsWithin (inside around cell) items) ++ "]"
  | .tuple cell items =>
    if isWithin around cell then "(...)"
    else parenthesized (literalsWithin (inside around cell) items)
  | .mapping cell entries =>
    if isWithin around cell then "\x7b...\x7d"
    else "\x7b" ++ ", ".intercalate (entriesWithin (inside around cell) entries) ++ "\x7d"
  | .options _ kind _ sort limit offset projections =>
    kind.name ++ "(" ++ fieldTexts ", " kind (sort.literalWithin around)
      (limit.literalWithin around) (offset.literalWithin around)
      (projections.literalWithin around) ++ ")"
  | .prepared sql cell params =>
    preparedText sql (if isWithin around cell then "(...)"
      else parenthesized (literalsWithin (inside around cell) params))

/-- The literals of a sequence. -/
def literalsWithin (around : List Nat) : List Value → List String
  | [] => []
  | v :: vs => v.literalWithin around :: literalsWithin around vs

/-- The literals of a mapping's entries: key, colon, value. -/
def entriesWithin (around : List Nat) : List (Value × Value) → List String
  | [] => []
  | (key, value) :: rest =>
    (key.literalWithin around ++ ": " ++ value.literalWithin around) :: entriesWithin around rest

end

/-- The text of a value in messages. -/
def literal (v : Value) : String := v.literalWithin []

/-- The text of a value in a statement. -/
def display : Value → String
  | .str s => s
  | .direction d => directionName d
  | .options _ kind _ sort limit offset projections =>
    fieldTexts " " kind sort.literal limit.literal offset.literal projections.literal
  | v => v.literal

@[simp] theorem display_str (s : String) : (Value.str s).display = s := rfl

@[simp] theorem display_int (n : Int) : (Value.int n).display = toString n := by
  simp [display, literal, literalWithin]

example : (ofParts [.str "a"]).literal = "('a',)" := by decide +kernel
example : (ofEntries [(.int 1, ofItems [.null, .bool true])]).literal
    = "\x7b1: [None, True]\x7d" := by decide +kernel
example : (Value.list (some 0) [.list (some 0) []]).literal = "[[...]]" := by decide +kernel
example : (Value.direction .asc).literal = "<SortDirection.ASC: 'ASC'>" := by decide +kernel
example : (Value.options none .orderLimit [] .null (.int 1) .null .null).display
    = "sort=None limit=1 offset=None" := by decide +kernel

/-! ## Limits -/

/-- What keeps a value from being written. -/
inductive WritingLimit
  /-- It has too many levels. -/
  | depth
  /-- An integer in it has too many digits. -/
  | digits
  deriving DecidableEq, Repr, Inhabited

section

variable [Machine]

/-- What keeps an integer from being written. -/
def digitLimit? (n : Int) : Option WritingLimit :=
  if (Nat.toDigits 10 n.natAbs).length ≤ Machine.digits then none else some .digits

/-- What keeps a collection from being written, given how many levels there is room for. -/
def deeper (room : Nat) (inner : Nat → Option WritingLimit) : Option WritingLimit :=
  match room with
  | 0 => some .depth
  | room + 1 => inner room

mutual

/-- What keeps a value from being written, given the cells of the collections around it and how
many levels there is room for. -/
def limitWithin? (around : List Nat) (room : Nat) : Value → Option WritingLimit
  | .int n => digitLimit? n
  | .list cell items => deeper room fun room =>
    if isWithin around cell then none else limitAmong? (inside around cell) room items
  | .tuple cell items => deeper room fun room =>
    if isWithin around cell then none else limitAmong? (inside around cell) room items
  | .mapping cell entries => deeper room fun room =>
    if isWithin around cell then none else limitInEntries? (inside around cell) room entries
  | .options _ _ _ sort limit offset projections => deeper room fun room =>
    (sort.limitWithin? around room).or ((limit.limitWithin? around room).or
      ((offset.limitWithin? around room).or (projections.limitWithin? around room)))
  | .prepared _ cell params => deeper room fun room => deeper room fun room =>
    if isWithin around cell then none else limitAmong? (inside around cell) room params
  | _ => none

/-- What keeps the first value of a sequence that is not written from it. -/
def limitAmong? (around : List Nat) (room : Nat) : List Value → Option WritingLimit
  | [] => none
  | v :: vs => (v.limitWithin? around room).or (limitAmong? around room vs)

/-- What keeps the first key or value of a mapping that is not written from it. -/
def limitInEntries? (around : List Nat) (room : Nat) : List (Value × Value) → Option WritingLimit
  | [] => none
  | (key, value) :: rest => (key.limitWithin? around room).or
    ((value.limitWithin? around room).or (limitInEntries? around room rest))

end

/-- What keeps a value from being written. -/
def limit? (v : Value) : Option WritingLimit := v.limitWithin? [] Machine.depth

/-- The literal of a value for a report, which has to say something of every value. -/
def shown (v : Value) : String :=
  match v.limit? with
  | none => v.literal
  | some _ => "<unprintable " ++ v.kind.name ++ " object>"

@[simp] theorem limit?_str (s : String) : (Value.str s).limit? = none := by
  simp [limit?, limitWithin?]

@[simp] theorem limit?_null : Value.null.limit? = none := by
  simp [limit?, limitWithin?]

@[simp] theorem limit?_int (n : Int) : (Value.int n).limit? = digitLimit? n := by
  simp [limit?, limitWithin?]

/-- Nothing keeps an integer from being written but its digits. -/
theorem digitLimit?_eq_some {n : Int} {limit : WritingLimit} (stopped : digitLimit? n = some limit) :
    limit = .digits := by
  unfold digitLimit? at stopped
  split at stopped
  · cases stopped
  · exact (Option.some.inj stopped).symm

theorem limitAmong?_eq_none {around : List Nat} {room : Nat} {vs : List Value}
    (free : ∀ v ∈ vs, v.limitWithin? around room = none) : limitAmong? around room vs = none := by
  induction vs with
  | nil => rfl
  | cons v vs ih =>
    obtain ⟨here, rest⟩ := List.forall_mem_cons.1 free
    rw [limitAmong?, here, ih rest]
    rfl

/-- A list of texts is written on every machine. -/
theorem limit?_ofItems {vs : List Value} (texts : ∀ v ∈ vs, ∃ s, v = .str s) :
    (ofItems vs).limit? = none := by
  obtain ⟨room, levels⟩ := Nat.exists_eq_succ_of_ne_zero (Nat.ne_of_gt Machine.depth_pos)
  rw [limit?, levels, ofItems, limitWithin?]
  refine limitAmong?_eq_none fun v among => ?_
  obtain ⟨s, rfl⟩ := texts v among
  simp [limitWithin?]

end

end Value

end SqlAssembly
