import SqlAssembly.Build
import SqlAssembly.Value.Sequence

/-!
# Values to bind

The values that stand for the question marks of a statement, in their order,
and the groups of question marks that an insert is made of.

The values of mappings are taken in the order of their keys.  The rows of an
insert are read by the names of its columns instead, so that every row may have
an order of its own; a row that lacks a column is refused, and the error names
every column that it lacks.
-/

namespace SqlAssembly.Binding

/-! ## Question marks -/

variable [Machine]

/-- That memory holds something of a size in octets, or the fault that it does not. -/
def hold (size : Nat) : Except Fault Unit :=
  if Machine.memory ≤ size then .error .outOfMemory else .ok ()

/-- How often something of a given size is repeated, from the number asked for. -/
def repetitions (size : Nat) (count : Int) : Except Fault Nat :=
  if count < -Value.indexLimit ∨ Value.indexLimit ≤ count then .error .repetitionTooLarge
  else (hold (count.toNat * size)).map fun _ => count.toNat

/-- So many question marks between parentheses. -/
def group (arity : Nat) : String :=
  "(" ++ ",".intercalate (List.replicate arity "?") ++ ")"

/-- The number of characters of a group: parentheses, question marks and what is between them. -/
def groupLength (arity : Nat) : Nat := 2 + (2 * arity - 1)

/-- So many question marks between parentheses, if the number is one. -/
def placeholders (arity : Value) : Except Fault String :=
  match arity.integer? with
  | some n => do
    let n ← repetitions 1 n
    hold (groupLength n)
    return group n
  | none => .error (.notRepeatable arity.kind)

/-! ## Mappings -/

/-- The values of mappings, one mapping after the other. -/
def values : List Value → Except Fault (List Value)
  | [] => .ok []
  | mapping :: rest => do
    let entries ← mapping.entriesBy "values"
    let more ← values rest
    return Entries.values entries ++ more

/-! ## Rows -/

/-- The columns that a row lacks. -/
def missing (row : Value) : List Value → Except Fault (List Value)
  | [] => .ok []
  | column :: rest => do
    let there ← row.holds column
    let more ← missing row rest
    return if there then more else column :: more

/-- The values of a row under columns, in their order. -/
def picked (row : Value) : List Value → Except Fault (List Value)
  | [] => .ok []
  | column :: rest => do
    let value ← row.item column
    let more ← picked row rest
    return value :: more

/-- The error of a row that lacks columns. -/
def missingColumns (index : Nat) (row : Value) (columns : String) : InvalidArgument where
  statement := "insert"
  argument := "rows"
  detail := "row " ++ toString index ++ " is missing columns: " ++ columns
  value := row
  cause := none

/-- The values of one row under the columns of an insert. -/
def rowValues (fields : Value) (index : Nat) (row : Value) : Build (List Value) := do
  let columns ← liftM fields.items
  let lacking ← liftM (missing row columns)
  if lacking.isEmpty then liftM (picked row columns)
  else
    let names ← liftM (Value.joinItems ", " lacking)
    Build.refuse .parameters [("row_index", .count index)] (missingColumns index row names)

/-- The values of rows under the columns of an insert, the first row at a given position. -/
def rowsValues (fields : Value) (index : Nat) : List Value → Build (List Value)
  | [] => return []
  | row :: rest => do
    let these ← rowValues fields index row
    let more ← rowsValues fields (index + 1) rest
    return these ++ more

/-- The values of rows, row by row, each under the columns of an insert. -/
def flattened (fields rows : Value) : Build (List Value) := do
  let all ← liftM rows.items
  rowsValues fields 0 all

omit [Machine] in
theorem values_mapping (cell : Cell) (entries : Entries) :
    values [.mapping cell entries] = .ok entries.values := by
  simp [values, Value.entriesBy, bind, Except.bind, pure, Except.pure]

example : group 3 = "(?,?,?)" := by decide +kernel

end SqlAssembly.Binding
