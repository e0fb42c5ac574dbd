import SqlAssembly.Binding
import SqlAssembly.Statement.Filtered
import SqlAssembly.Text.Weight

/-!
# Inserts

An insert names its columns once and has one group of question marks for each
row.  The columns are a sequence of names, and a text is not taken for one; the
number of rows is an integer from one on, and a truth value is not taken for
one.

The groups come into memory twice, as the places of a list and as the text that
is made of them, and both have to be small enough.
-/

namespace SqlAssembly.Statement

/-- The error of columns that are none. -/
def noColumns (fields : Value) : InvalidArgument where
  statement := "insert"
  argument := "fields"
  detail := "fields must be a non-empty sequence of column names"
  value := fields
  cause := none

/-- The error of a number of rows that is none. -/
def noRowCount (rowCount : Value) : InvalidArgument where
  statement := "insert"
  argument := "row_count"
  detail := "row_count must be an integer >= 1, got " ++ rowCount.literal
  value := rowCount
  cause := none

/-- The number of rows that a value is. -/
def rowCount? : Value → Option Nat
  | .int n => if 1 ≤ n then some n.toNat else none
  | _ => none

section

variable [Machine]

/-- The number of rows, or the fault with which an argument is refused. -/
def insertRows (fields rowCount : Value) : Except Fault Nat :=
  if fields.text?.isSome || !fields.isGiven then .error (.invalidArgument (noColumns fields))
  else match rowCount? rowCount with
    | some n => .ok n
    | none => rowCount.written >>= fun _ => .error (.invalidArgument (noRowCount rowCount))

/-- The text of an insert. -/
def insertText (table : Value) (columns group : String) (rows : Nat) : String :=
  "INSERT INTO " ++ table.display ++ " (" ++ columns ++ ") VALUES "
    ++ ",".intercalate (List.replicate rows group)

/-- The size in octets of one place in a list. -/
def placeSize : Nat := 8

/-- The size in octets of the text of an insert, found without making it. -/
def insertSize (table : Value) (columns : String) (width rows : Nat) : Nat :=
  let names := table.display ++ columns
  ("INSERT INTO  () VALUES ".length + names.length + rows * Binding.groupLength width + (rows - 1))
    * Text.width names

/-- New rows. -/
def insert (table fields rowCount : Value) : Build String := do
  let rows ← Build.checked .insert (insertRows fields rowCount)
  let width ← liftM fields.size
  liftM table.written
  let columns ← liftM (fields.join ",")
  let rows ← liftM (Binding.repetitions placeSize rows)
  liftM (Binding.hold (insertSize table columns width rows))
  Build.emit (built .insert "insert" table
    (("rows", .count rows) :: placeholderCount (width * rows)))
  return insertText table columns (Binding.group width) rows

end

end SqlAssembly.Statement
