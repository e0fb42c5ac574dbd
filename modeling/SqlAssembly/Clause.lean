import SqlAssembly.Build
import SqlAssembly.Text.Uppercase
import SqlAssembly.Value.Sequence

/-!
# Clauses

The fragments that statements are made of.  Columns and values never meet: a
fragment holds the names of columns, and a question mark where a value will be
bound.  The question marks stand in the order of the columns.

Conditions without columns let every row through.  An ordering takes directions
as they come, unless the settings ask for strictness; then a direction has to be
one of the two, in any case.  If the settings cannot be read, that is recorded
and nothing is asked of directions.

An offset without a limit means nothing and is dropped; that, too, is recorded.

What a fragment is made of has to have a text on the machine; an ordering ends at
the first column that has none, or whose direction is refused.
-/

namespace SqlAssembly.Clause

/-- A column set equal to a value to be bound. -/
def binding (column : String) : String := column ++ "=?"

/-- Columns set equal to values to be bound. -/
def bindings (columns : List Value) : List String := columns.map fun column =>
  binding column.display

variable [Machine]

/-- The columns of a mapping, every one of which can be written. -/
def columns (v : Value) : Except Fault (List Value) := v.items >>= Value.writable

/-- The condition on rows, given the columns. -/
def conditionOn (columns : List Value) : String :=
  "WHERE " ++ " AND ".intercalate (bindings columns)

/-- The condition on rows: every column equal to its value, or one that always holds. -/
def condition (criteria : Value) : Except Fault String :=
  if criteria.isGiven then (columns criteria).map conditionOn else .ok "WHERE 1"

/-- The new values of columns, given the columns. -/
def assignmentsOf (columns : List Value) : String := ",".intercalate (bindings columns)

/-- The new values of columns. -/
def assignments (updates : Value) : Except Fault String := (columns updates).map assignmentsOf

/-- The columns to return; all of them if none are named. -/
def projection (projections : Value) : Except Fault String :=
  if projections.isGiven then projections.join "," else .ok "*"

/-! ## Ordering -/

/-- The event that the settings could not be read. -/
def settingsUnavailable (report : Report) : Event :=
  ⟨.clauses, .warning, "sql.settings_unavailable",
    [("setting", .value (.str "strict_sort_direction")), ("errors", .count report.problems.length)]⟩

/-- Whether directions have to be one of the two. -/
def strictness : Build Bool := do
  match ← Build.settings with
  | .ok settings => return settings.strictSortDirection
  | .error report =>
    Build.emit (settingsUnavailable report)
    return false

/-- A direction as it is written: its token, or the value itself. -/
def directionToken : Value → Value
  | .direction d => .str d.token
  | v => v

/-- Whether a text is one of the two directions, in any case. -/
def isDirection (token : String) : Bool :=
  (Direction.all.map Direction.token).contains (Text.upper token)

/-- The error of a direction that is none of the two. -/
def unsupportedDirection (column token : Value) : InvalidArgument where
  statement := "order_by"
  argument := "sort"
  detail := "unsupported sort direction " ++ token.literal ++ " for column " ++ column.literal
  value := token
  cause := none

/-- A column with its direction. -/
def orderedColumn (column token : Value) : String := column.display ++ " " ++ token.display

/-- The columns with their directions, up to the first one that cannot be written or is refused. -/
def orderedColumns (strict : Bool) : Entries → Except Fault (List String)
  | [] => .ok []
  | (column, direction) :: rest => do
    let token := directionToken direction
    column.written
    token.written
    if strict && !isDirection token.display then
      .error (.invalidArgument (unsupportedDirection column token))
    else (orderedColumns strict rest).map (orderedColumn column token :: ·)

/-- The ordering of rows, given the columns with their directions. -/
def orderingOf (columns : List String) : String := "ORDER BY " ++ ",".intercalate columns

/-- The ordering of rows, or nothing. -/
def ordering (sort : Value) : Build String :=
  if sort.isGiven then do
    let strict ← strictness
    let entries ← liftM (sort.entriesBy "items")
    let columns ← Build.checked .clauses (orderedColumns strict entries)
    return orderingOf columns
  else return ""

/-! ## Joining -/

/-- The fragments that are not empty, with spaces between them. -/
def joined (fragments : List String) : String :=
  " ".intercalate (fragments.filter fun fragment => !fragment.isEmpty)

/-- The given items of a value, with spaces between them. -/
def joinedValue (fragments : Value) : Except Fault String := do
  let items ← fragments.items
  Value.joinItems " " (items.filter Value.isGiven)

/-! ## Limits -/

/-- How many rows at most. -/
def limiting (limit : Value) : String := "LIMIT " ++ limit.display

/-- How many rows to leave out first. -/
def skipping (offset : Value) : String := "OFFSET " ++ offset.display

/-- The fragments of a limit and an offset; the offset needs the limit. -/
def windowFragments (limit offset : Value) : List String :=
  if limit.kind = .null then []
  else if offset.kind = .null then [limiting limit]
  else [limiting limit, skipping offset]

/-- What is written of a limit and an offset. -/
def window (limit offset : Value) : List Value :=
  if limit.kind = .null then []
  else if offset.kind = .null then [limit]
  else [limit, offset]

/-- The event that an offset was dropped. -/
def offsetDropped (offset : Value) : Event :=
  ⟨.clauses, .warning, "sql.offset_dropped",
    [("offset", .value offset), ("reason", .value (.str "no limit given"))]⟩

/-- The end of a statement: ordering, limit and offset. -/
def suffix (sort limit offset : Value) : Build String := do
  let order ← ordering sort
  if limit.kind = .null ∧ offset.kind ≠ .null then
    Build.emit (offsetDropped offset)
  let _ ← liftM (Value.writable (window limit offset))
  return joined (order :: windowFragments limit offset)

/-! ## Small laws -/

theorem ordering_of_empty {sort : Value} (h : sort.isGiven = false) :
    ordering sort = pure "" := by
  simp [ordering, h]

/-- What keeps a column with its direction from being written. -/
def entryLimit? (entry : Value × Value) : Option Value.WritingLimit :=
  entry.1.limit?.or (directionToken entry.2).limit?

/-- Columns with their directions end at the first one that cannot be written. -/
theorem orderedColumns_of_limit (strict : Bool) {entry : Value × Value}
    {limit : Value.WritingLimit} (stopped : entryLimit? entry = some limit) (rest : Entries) :
    orderedColumns strict (entry :: rest) = .error (.unwritable limit) := by
  obtain ⟨column, direction⟩ := entry
  unfold entryLimit? at stopped
  cases named : column.limit? with
  | some first =>
    rw [named] at stopped
    cases stopped
    simp [orderedColumns, Value.written, Value.unlessLimited, named, bind, Except.bind]
  | none =>
    rw [named, Option.none_or] at stopped
    simp [orderedColumns, Value.written, Value.unlessLimited, named, stopped, bind, Except.bind]

/-- One that can be written is refused with strictness, if its direction is none of the two. -/
theorem orderedColumns_of_written (strict : Bool) {entry : Value × Value}
    (free : entryLimit? entry = none) (rest : Entries) :
    let token := directionToken entry.2
    orderedColumns strict (entry :: rest) =
      if strict && !isDirection token.display then
        .error (.invalidArgument (unsupportedDirection entry.1 token))
      else (orderedColumns strict rest).map (orderedColumn entry.1 token :: ·) := by
  obtain ⟨named, directed⟩ := Option.or_eq_none_iff.1 free
  simp only [orderedColumns, Value.written_of_limit?_eq_none named,
    Value.written_of_limit?_eq_none directed, bind, Except.bind]

omit [Machine] in
theorem joined_nil : joined [] = "" := rfl

omit [Machine] in
theorem joined_cons_empty (rest : List String) : joined ("" :: rest) = joined rest := by
  simp [joined]

end SqlAssembly.Clause
