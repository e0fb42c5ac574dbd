import SqlAssembly.Clause
import SqlAssembly.Options.Coercion

/-!
# Counts, finds, updates and deletes

The statements with a condition on rows.  Each is its head, the condition and,
where it has options, the ordering and the limits, with spaces between them.

The table is written as it is given.  Only the columns of the criteria and of
the new values are written; their values are bound later, those of an update
before those of its condition.  An update of no column is refused before
anything else is looked at.

Each records that it was built, with the number of values to bind.
-/

namespace SqlAssembly.Statement

/-- The event that a statement was built. -/
def built (logger : Logger) (statement : String) (table : Value) (counts : Bindings Detail) :
    Event :=
  ⟨logger, .debug, "sql.statement_built",
    [("statement", .value (.str statement)), ("table", .value table)] ++ counts⟩

/-- A number of values to bind, as a field of an event. -/
def placeholderCount (n : Nat) : Bindings Detail := [("placeholders", .count n)]

/-! ## Heads -/

/-- The head of a count. -/
def countHead (table : Value) : String := "SELECT COUNT(*) AS counter FROM " ++ table.display

/-- The head of a find, given its projection. -/
def findHead (projection : String) (table : Value) : String :=
  "SELECT " ++ projection ++ " FROM " ++ table.display

/-- The head of an update, given its assignments. -/
def updateHead (table : Value) (assignments : String) : String :=
  "UPDATE " ++ table.display ++ " SET " ++ assignments

/-- The head of a delete. -/
def deleteHead (table : Value) : String := "DELETE FROM " ++ table.display

/-! ## Statements -/

variable [Machine]

/-- The number of rows that meet criteria. -/
def count (table criteria : Value) : Build String := do
  liftM table.written
  let condition ← liftM (Clause.condition criteria)
  let size ← liftM criteria.size
  Build.emit (built .select "count" table (placeholderCount size))
  return Clause.joined [countHead table, condition]

/-- The rows that meet criteria. -/
def find (table criteria options : Value) : Build String := do
  let options ← Options.coerce options .find "find"
  let projection ← liftM (Clause.projection options.projections)
  liftM table.written
  let condition ← liftM (Clause.condition criteria)
  let suffix ← Clause.suffix options.sort options.limit options.offset
  let size ← liftM criteria.size
  Build.emit (built .select "find" table (placeholderCount size))
  return Clause.joined [findHead projection table, condition, suffix]

/-- The error of an update without columns. -/
def nothingToUpdate (updates : Value) : InvalidArgument where
  statement := "update"
  argument := "updates"
  detail := "at least one column must be updated"
  value := updates
  cause := none

/-- New values for the rows that meet criteria. -/
def update (table criteria updates options : Value) : Build String := do
  if !updates.isGiven then
    Build.refuse .update [] (nothingToUpdate updates)
  else
    let options ← Options.coerce options .orderLimit "update"
    liftM table.written
    let assignments ← liftM (Clause.assignments updates)
    let condition ← liftM (Clause.condition criteria)
    let suffix ← Clause.suffix options.sort options.limit options.offset
    let updated ← liftM updates.size
    let size ← liftM criteria.size
    Build.emit (built .update "update" table (placeholderCount (updated + size)))
    return Clause.joined [updateHead table assignments, condition, suffix]

/-- No more rows that meet criteria. -/
def delete (table criteria options : Value) : Build String := do
  let options ← Options.coerce options .orderLimit "delete"
  liftM table.written
  let condition ← liftM (Clause.condition criteria)
  let suffix ← Clause.suffix options.sort options.limit options.offset
  let size ← liftM criteria.size
  Build.emit (built .delete "delete" table (placeholderCount size))
  return Clause.joined [deleteHead table, condition, suffix]

end SqlAssembly.Statement
