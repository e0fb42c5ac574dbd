import SqlAssembly.Operation
import SqlAssembly.Proofs.Insert.Complete
import SqlAssembly.Proofs.Statement.Finish

/-!
# Requests

A *request* is a statement with arguments of the shapes that callers are told to
give: tables are texts, criteria and new values are mappings with whatever keys
and values, and an insert names its columns by texts.  The options are any value
whatever, and so is the number of rows.

A request is made by the operation that builds the statement or by the one that
prepares it (`Request.operations`).  An insert of rows is only ever prepared.

What is written in the journal for a request follows from its arguments and the
settings: whether the settings are asked (`asks`), whether an offset is dropped
(`dropped`), and the event that the statement was built (`built`).  Whatever is
refused is among `refusals`.  A request that is not refused may be too much for
the machine: memory may not hold it (`TooLarge`), or something in it may have no
text (`limit?`).
-/

namespace SqlAssembly

/-! ## Arguments -/

/-- A mapping with whatever keys and values. -/
structure Mapping where
  /-- The cell it lives in, if it has been kept. -/
  cell : Cell
  /-- The keys with their values. -/
  entries : Entries

/-- A mapping as a value. -/
def Mapping.toValue (m : Mapping) : Value := .mapping m.cell m.entries

/-- The columns of an insert, as a list or as a tuple. -/
inductive Columns
  | list (cell : Cell) (names : List String)
  | tuple (cell : Cell) (names : List String)

namespace Columns

/-- The names of the columns. -/
def names : Columns → List String
  | .list _ names => names
  | .tuple _ names => names

/-- The columns as a value. -/
def toValue : Columns → Value
  | .list cell names => .list cell (names.map .str)
  | .tuple cell names => .tuple cell (names.map .str)

theorem isGiven_toValue (columns : Columns) : columns.toValue.isGiven = !columns.names.isEmpty := by
  cases columns with
  | list cell names | tuple cell names => cases names <;> rfl

theorem text?_toValue (columns : Columns) : columns.toValue.text? = none := by
  cases columns <;> rfl

theorem size_toValue (columns : Columns) : columns.toValue.size = .ok columns.names.length := by
  cases columns <;> exact congrArg Except.ok (List.length_map _)

theorem join_toValue (columns : Columns) (separator : String) :
    columns.toValue.join separator = .ok (separator.intercalate columns.names) := by
  cases columns <;> exact Value.joinItems_map_str separator _

end Columns

/-- A statement with its arguments. -/
inductive Request
  | count (table : String) (criteria : Mapping)
  | find (table : String) (criteria : Mapping) (options : Options.Argument)
  | insert (table : String) (columns : Columns) (rowCount : Value)
  | insertRows (table : String) (cell : Cell) (rows : List Row)
  | update (table : String) (criteria updates : Mapping) (options : Options.Argument)
  | delete (table : String) (criteria : Mapping) (options : Options.Argument)

namespace Request

/-- The operations that a request is made by. -/
def operations : Request → List (Operation Value)
  | .count table criteria =>
    [.count (.str table) criteria.toValue, .prepareCount (.str table) criteria.toValue]
  | .find table criteria options =>
    [.find (.str table) criteria.toValue options.value,
      .prepareFind (.str table) criteria.toValue options.value]
  | .insert table columns rowCount => [.insert (.str table) columns.toValue rowCount]
  | .insertRows table cell rows => [.prepareInsert (.str table) (.list cell (rows.map Row.toValue))]
  | .update table criteria updates options =>
    [.update (.str table) criteria.toValue updates.toValue options.value,
      .prepareUpdate (.str table) criteria.toValue updates.toValue options.value]
  | .delete table criteria options =>
    [.delete (.str table) criteria.toValue options.value,
      .prepareDelete (.str table) criteria.toValue options.value]

/-! ## The event that a statement was built -/

/-- The name of the statement. -/
def statement : Request → String
  | .count .. => "count"
  | .find .. => "find"
  | .insert .. | .insertRows .. => "insert"
  | .update .. => "update"
  | .delete .. => "delete"

/-- The table. -/
def table : Request → String
  | .count table _ | .find table _ _ | .insert table _ _ | .insertRows table _ _
  | .update table _ _ _ | .delete table _ _ => table

/-- The logger of the statement. -/
def logger : Request → Logger
  | .count .. | .find .. => .select
  | .insert .. | .insertRows .. => .insert
  | .update .. => .update
  | .delete .. => .delete

/-- The number of rows of an insert. -/
def rows? : Request → Option Nat
  | .insert _ _ rowCount => Statement.rowCount? rowCount
  | .insertRows _ _ rows => some rows.length
  | _ => none

/-- The number of values to bind. -/
def bound : Request → Nat
  | .count _ criteria | .find _ criteria _ | .delete _ criteria _ => criteria.entries.length
  | .update _ criteria updates _ => updates.entries.length + criteria.entries.length
  | .insert _ columns rowCount => columns.names.length * (Statement.rowCount? rowCount).getD 0
  | .insertRows _ _ rows => (Prepared.fields rows).length * rows.length

/-- The event that the statement was built. -/
def built (r : Request) : Event :=
  Statement.built r.logger r.statement (.str r.table)
    ((r.rows?.toList.map fun (n : Nat) => ("rows", .count n)) ++ Statement.placeholderCount r.bound)

/-! ## What is recorded before -/

variable [Machine]

/-- The statement with a condition and options that a request comes to. -/
def guarded? : Request → Option Statement.Guarded
  | .find table criteria options =>
    some (Statement.guardedFind (.str table) criteria.toValue options.value)
  | .update table criteria updates options =>
    if updates.entries.isEmpty then none
    else some (Statement.guardedUpdate (.str table) criteria.toValue updates.toValue options.value)
  | .delete table criteria options =>
    some (Statement.guardedDelete (.str table) criteria.toValue options.value)
  | _ => none

/-- The record that the end of the statement is written from, if it comes to that. -/
def reached? (r : Request) : Option Options := r.guarded?.bind Statement.Guarded.reached?

/-- Whether a request comes to an ordering with columns, and so asks the settings. -/
def asks (r : Request) : Bool := r.guarded?.any Statement.Guarded.asks

/-- The event that the settings cannot be read, if they are asked and cannot be. -/
def heard (r : Request) (desk : Desk) : List Event := if r.asks then desk.unavailable else []

/-- The event that an offset is dropped, if it is. -/
def dropped (r : Request) : List Event :=
  match r.guarded? with
  | some g => g.droppedOffset
  | none => []

/-! ## What can go wrong -/

/-- The arguments that may be refused, each with the statement that it is refused for. -/
def refusals : Request → List (String × String)
  | .count .. => []
  | .find .. => [("find", "options"), ("order_by", "sort")]
  | .insert .. => [("insert", "fields"), ("insert", "row_count")]
  | .insertRows .. => [("insert", "rows"), ("insert", "fields")]
  | .update .. => [("update", "updates"), ("update", "options"), ("order_by", "sort")]
  | .delete .. => [("delete", "options"), ("order_by", "sort")]

/-- Options that are a record are as they were made. -/
def Unchanged : Request → Prop
  | .find _ _ options | .update _ _ _ options | .delete _ _ options =>
    ∀ o, Options.ofValue? options.value = some o → o.Intact
  | _ => True

/-- An insert that nothing is wrong with but that memory does not hold. -/
def TooLarge : Request → Prop
  | .insert table columns rowCount => columns.names ≠ [] ∧
    ∃ n, Statement.rowCount? rowCount = some n ∧ ¬ Statement.Fits table columns.names n
  | .insertRows table _ rows => Prepared.Insertable rows ∧ ¬ Prepared.Held table rows
  | _ => False

/-- Rows whose statement memory holds, but not their values with it. -/
def Unbound : Request → Prop
  | .insertRows table _ rows => Prepared.Insertable rows ∧
    Statement.Fits table (Prepared.fields rows) rows.length ∧ ¬ Prepared.Held table rows
  | _ => False

/-- What a request writes whatever it is: its keys, and a number of rows that is none. -/
def named : Request → List Value
  | .count _ criteria | .find _ criteria _ | .delete _ criteria _ => criteria.entries.keys
  | .update _ criteria updates _ => updates.entries.keys ++ criteria.entries.keys
  | .insert _ _ rowCount => if (Statement.rowCount? rowCount).isSome then [] else [rowCount]
  | .insertRows .. => []

/-- What a request writes of the limit and the offset of the record that is taken. -/
def window (r : Request) : List Value :=
  (r.guarded?.bind Statement.Guarded.record?).elim [] fun o => Clause.window o.limit o.offset

/-- What keeps a request from being written. -/
def limit? (r : Request) : Option Value.WritingLimit :=
  (r.named ++ r.window).findSome? Value.limit?

/-- The causes of a fault that is no refusal, with which a request ends before it is built. -/
inductive Fails (r : Request) : Fault → Prop
  /-- Memory does not hold the insert. -/
  | memory (large : r.TooLarge) (unbuilt : ¬ r.Unbound) : Fails r .outOfMemory
  /-- The rows are too many to be counted by an index. -/
  | count (large : r.TooLarge) (unbuilt : ¬ r.Unbound) : Fails r .repetitionTooLarge
  /-- Something that is to be written has no text. -/
  | unwritable {limit : Value.WritingLimit} (stopped : r.limit? = some limit) :
    Fails r (.unwritable limit)
  /-- What is in a record was changed after it was made. -/
  | changed (fault : Fault) (change : ¬ r.Unchanged) : Fails r fault

/-- How a request ends at a desk, and the events that it adds there. -/
inductive Ending {α : Type} (r : Request) (desk : Desk) : Except Fault α → List Event → Prop
  /-- The statement is built, which is the last event. -/
  | built (a : α) (held : ¬ r.TooLarge) (free : r.limit? = none) :
    Ending r desk (.ok a) (r.heard desk ++ r.dropped ++ [r.built])
  /-- An argument is refused, which is the last event. -/
  | refused {error : InvalidArgument} {logger : Logger}
    (listed : (error.statement, error.argument) ∈ r.refusals) (known : logger ∈ Logger.all)
    (held : ¬ r.TooLarge) :
    Ending r desk (.error (.invalidArgument error)) (r.heard desk ++ [error.event logger []])
  /-- Something else goes wrong before the statement is built. -/
  | failed {fault : Fault} (cause : r.Fails fault) : Ending r desk (.error fault) (r.heard desk)
  /-- The statement is built, but memory does not hold its values. -/
  | unbound (large : r.Unbound) : Ending r desk (.error .outOfMemory) [r.built]

/-- An operation ends as a request does. -/
def EndedBy {α : Type} (r : Request) (work : Build α) : Prop :=
  ∀ desk, ∃ events, (work desk).2.events = desk.events ++ events ∧
    r.Ending desk (work desk).1 events

end Request

end SqlAssembly
