import SqlAssembly.Statement.Prepared

/-!
# Operations by name

Every operation of the library with its arguments, as data.  What an argument is
is left open: a value, or something that a value is still to be made of.  `mapM`
makes the arguments of one operation into those of another, from left to right;
`run` performs an operation whose arguments are values.
-/

namespace SqlAssembly

/-- An operation with its arguments. -/
inductive Operation (α : Type)
  /-- The condition on rows. -/
  | condition (criteria : α)
  /-- The new values of columns. -/
  | assignments (updates : α)
  /-- The columns to return. -/
  | projection (projections : α)
  /-- The ordering of rows. -/
  | ordering (sort : α)
  /-- The ordering and the limits. -/
  | suffix (sort limit offset : α)
  /-- Fragments joined to a statement. -/
  | joined (fragments : α)
  /-- A group of question marks. -/
  | placeholders (arity : α)
  /-- The values of mappings. -/
  | values (mappings : List α)
  /-- The values of rows under columns. -/
  | flattened (fields rows : α)
  /-- The text of a count. -/
  | count (table criteria : α)
  /-- The text of a find. -/
  | find (table criteria options : α)
  /-- The text of an insert. -/
  | insert (table fields rowCount : α)
  /-- The text of an update. -/
  | update (table criteria updates options : α)
  /-- The text of a delete. -/
  | delete (table criteria options : α)
  /-- A count with its values. -/
  | prepareCount (table criteria : α)
  /-- A find with its values. -/
  | prepareFind (table criteria options : α)
  /-- An insert with its values. -/
  | prepareInsert (table rows : α)
  /-- An update with its values. -/
  | prepareUpdate (table criteria updates options : α)
  /-- A delete with its values. -/
  | prepareDelete (table criteria options : α)
  deriving Inhabited, Repr

namespace Operation

/-- The number of rows of an insert for which none is given. -/
def singleRow : Value := .int 1

/-- The operation with arguments made of its own, from left to right. -/
def mapM {m : Type → Type} [Monad m] {α β : Type} (f : α → m β) :
    Operation α → m (Operation β)
  | .condition criteria => return .condition (← f criteria)
  | .assignments updates => return .assignments (← f updates)
  | .projection projections => return .projection (← f projections)
  | .ordering sort => return .ordering (← f sort)
  | .suffix sort limit offset => return .suffix (← f sort) (← f limit) (← f offset)
  | .joined fragments => return .joined (← f fragments)
  | .placeholders arity => return .placeholders (← f arity)
  | .values mappings => return .values (← mappings.mapM f)
  | .flattened fields rows => return .flattened (← f fields) (← f rows)
  | .count table criteria => return .count (← f table) (← f criteria)
  | .find table criteria options => return .find (← f table) (← f criteria) (← f options)
  | .insert table fields rowCount => return .insert (← f table) (← f fields) (← f rowCount)
  | .update table criteria updates options =>
    return .update (← f table) (← f criteria) (← f updates) (← f options)
  | .delete table criteria options => return .delete (← f table) (← f criteria) (← f options)
  | .prepareCount table criteria => return .prepareCount (← f table) (← f criteria)
  | .prepareFind table criteria options =>
    return .prepareFind (← f table) (← f criteria) (← f options)
  | .prepareInsert table rows => return .prepareInsert (← f table) (← f rows)
  | .prepareUpdate table criteria updates options =>
    return .prepareUpdate (← f table) (← f criteria) (← f updates) (← f options)
  | .prepareDelete table criteria options =>
    return .prepareDelete (← f table) (← f criteria) (← f options)

/-- An operation that yields a text, as one that yields a value. -/
def asText (work : Build String) : Build Value := return .str (← work)

/-- An operation that yields values, as one that yields a list of them. -/
def asList (work : Build (List Value)) : Build Value := return Value.ofItems (← work)

/-- An operation that yields a prepared statement, as one that yields a value. -/
def asPrepared (work : Build Prepared) : Build Value := return (← work).toValue

variable [Machine]

/-- What an operation yields. -/
def run : Operation Value → Build Value
  | .condition criteria => asText (liftM (Clause.condition criteria))
  | .assignments updates => asText (liftM (Clause.assignments updates))
  | .projection projections => asText (liftM (Clause.projection projections))
  | .ordering sort => asText (Clause.ordering sort)
  | .suffix sort limit offset => asText (Clause.suffix sort limit offset)
  | .joined fragments => asText (liftM (Clause.joinedValue fragments))
  | .placeholders arity => asText (liftM (Binding.placeholders arity))
  | .values mappings => asList (liftM (Binding.values mappings))
  | .flattened fields rows => asList (Binding.flattened fields rows)
  | .count table criteria => asText (Statement.count table criteria)
  | .find table criteria options => asText (Statement.find table criteria options)
  | .insert table fields rowCount => asText (Statement.insert table fields rowCount)
  | .update table criteria updates options =>
    asText (Statement.update table criteria updates options)
  | .delete table criteria options => asText (Statement.delete table criteria options)
  | .prepareCount table criteria => asPrepared (Prepared.count table criteria)
  | .prepareFind table criteria options => asPrepared (Prepared.find table criteria options)
  | .prepareInsert table rows => asPrepared (Prepared.insert table rows)
  | .prepareUpdate table criteria updates options =>
    asPrepared (Prepared.update table criteria updates options)
  | .prepareDelete table criteria options => asPrepared (Prepared.delete table criteria options)

end Operation

end SqlAssembly
