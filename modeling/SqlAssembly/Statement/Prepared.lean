import SqlAssembly.Statement.Insert
import SqlAssembly.Value.Order

/-!
# Prepared statements

A prepared statement is a text together with the values to bind to its question
marks, in their order.  The text is that of the statement alone.

The columns of an insert are those of its first row, in their order there, and
every other row must have the same columns in some order.  Rows are compared
before the statement is built; the error of a row that differs names its columns
and the expected ones, each sorted.  The values of an insert are gathered once
it is built, and memory has to hold them, too.
-/

namespace SqlAssembly

/-- The text of a statement and the values to bind to its question marks. -/
structure Prepared where
  /-- The text. -/
  sql : String
  /-- The values, in the order of their question marks. -/
  params : List Value
  deriving Inhabited, Repr

namespace Prepared

/-- A prepared statement as a value. -/
def toValue (p : Prepared) : Value := .prepared p.sql none p.params

variable [Machine]

/-- A prepared count. -/
def count (table criteria : Value) : Build Prepared := do
  let sql ← Statement.count table criteria
  let params ← liftM (Binding.values [criteria])
  return ⟨sql, params⟩

/-- A prepared find. -/
def find (table criteria options : Value) : Build Prepared := do
  let sql ← Statement.find table criteria options
  let params ← liftM (Binding.values [criteria])
  return ⟨sql, params⟩

/-- A prepared update: the new values are bound before those of the condition. -/
def update (table criteria updates options : Value) : Build Prepared := do
  let sql ← Statement.update table criteria updates options
  let params ← liftM (Binding.values [updates, criteria])
  return ⟨sql, params⟩

/-- A prepared delete. -/
def delete (table criteria options : Value) : Build Prepared := do
  let sql ← Statement.delete table criteria options
  let params ← liftM (Binding.values [criteria])
  return ⟨sql, params⟩

/-! ## Inserts -/

/-- The error of an insert without rows. -/
def noRows : InvalidArgument where
  statement := "insert"
  argument := "rows"
  detail := "at least one row is required"
  value := .null
  cause := none

/-- The error of a row with other columns than the first; both are sorted. -/
def otherColumns (index : Nat) (row : Value) (columns expected : List Value) :
    InvalidArgument where
  statement := "insert"
  argument := "rows"
  detail := "row " ++ toString index ++ " columns " ++ (Value.ofItems columns).literal
    ++ " differ from " ++ (Value.ofItems expected).literal
  value := row
  cause := none

/-- The members of a set: every one of them can be a key. -/
def members (v : Value) : Except Fault (List Value) := do
  let items ← v.items
  match Value.firstObstacle items with
  | some kind => .error (.notKey kind)
  | none => return items

/-- The error of a row, or nothing if it has the expected columns. -/
def rowError? (expected : List Value) (index : Nat) (row : Value) :
    Except Fault (Option InvalidArgument) := do
  let columns ← members row
  if Value.sameMembers columns expected then return none
  else
    let columns ← Value.sorted columns
    (Value.ofItems columns).written
    let expected ← Value.sorted (Value.setOrder (Value.distinct expected))
    (Value.ofItems expected).written
    return some (otherColumns index row columns expected)

/-- The error of the first row that has one, the first row at a given position. -/
def rowsError? (expected : List Value) (index : Nat) :
    List Value → Except Fault (Option InvalidArgument)
  | [] => return none
  | row :: rest => do
    match ← rowError? expected index row with
    | some error => return some error
    | none => rowsError? expected (index + 1) rest

/-- The columns of the first row, and the error of the first row that has others. -/
def insertColumns (rows : Value) : Except Fault (List Value × Option InvalidArgument) := do
  let first ← rows.item (.int 0)
  let fields ← members first
  let rest ← rows.itemsAfterFirst
  let error ← rowsError? fields 1 rest
  return (fields, error)

/-- A prepared insert. -/
def insert (table rows : Value) : Build Prepared :=
  if !rows.isGiven then Build.refuse .prepared [] noRows
  else do
    match ← liftM (insertColumns rows) with
    | (_, some error) => Build.refuse .prepared [] error
    | (fields, none) =>
      let columns := Value.ofItems fields
      let size ← liftM rows.size
      let sql ← Statement.insert table columns (.int size)
      let params ← Binding.flattened columns rows
      liftM (Binding.hold (params.length * Statement.placeSize))
      return ⟨sql, params⟩

end Prepared

end SqlAssembly
