import SqlAssembly.Proofs.Options.Taken
import SqlAssembly.Proofs.Settings.Strictness
import SqlAssembly.Statement.Prepared

/-!
# Statements with options

Finds, updates and deletes are one operation.  It takes a record for the
options, writes the head, the condition and the end of the statement, and
records that it was built.  They differ in the kind of the record, in the head
and in the values to bind.

`Guarded` holds what they differ in, and `Guarded.build` is the operation; that
it is the one of each statement is `find_eq_build`, `update_eq_build` and
`delete_eq_build`.  It asks the settings exactly if it comes as far as an
ordering with columns (`Guarded.build_heeds`).
-/

namespace SqlAssembly

namespace Build

variable {α β γ : Type}

theorem lift_map_bind (result : Except Fault α) (f : α → β) (next : β → Build γ) :
    ((liftM (result.map f) : Build β) >>= next) = (liftM result : Build α) >>= fun a => next (f a) := by
  cases result <;> rfl

theorem lift_bind_bind (result : Except Fault α) (f : α → Except Fault β) (next : β → Build γ) :
    ((liftM (result >>= f) : Build β) >>= next) =
      (liftM result : Build α) >>= fun a => (liftM (f a) : Build β) >>= next := by
  cases result <;> rfl

end Build

variable [Machine]

namespace Statement

/-- A statement with a condition and options, and what it differs in from others. -/
structure Guarded where
  /-- The logger of the statement. -/
  logger : Logger
  /-- The name of the statement. -/
  name : String
  /-- The kind of record that it takes. -/
  kind : OptionsKind
  /-- Its table. -/
  table : Value
  /-- Its criteria. -/
  criteria : Value
  /-- Its options. -/
  options : Value
  /-- Its head, given the record. -/
  head : Options → Except Fault String
  /-- The number of values to bind. -/
  size : Except Fault Nat

namespace Guarded

/-- The event that the statement was built, with a number of values to bind. -/
def event (g : Guarded) (n : Nat) : Event := built g.logger g.name g.table (placeholderCount n)

/-- The statement, once a record is taken. -/
def buildWith (g : Guarded) (o : Options) : Build String := do
  let head ← liftM (g.head o)
  let condition ← liftM (Clause.condition g.criteria)
  let suffix ← Clause.suffix o.sort o.limit o.offset
  let size ← liftM g.size
  Build.emit (g.event size)
  return Clause.joined [head, condition, suffix]

/-- The statement. -/
def build (g : Guarded) : Build String := Options.coerce g.options g.kind g.name >>= g.buildWith

/-- The record that is taken for the options. -/
def record? (g : Guarded) : Option Options := Options.taken? g.kind g.name g.options

/-- The record, if it can be written as far as its ordering. -/
def reached? (g : Guarded) : Option Options :=
  g.record?.filter fun o => (g.head o).isOk && (Clause.condition g.criteria).isOk

/-- Whether the statement comes to an ordering with columns. -/
def asks (g : Guarded) : Bool := g.reached?.any fun o => o.sort.isGiven

end Guarded

/-- A find. -/
def guardedFind (table criteria options : Value) : Guarded where
  logger := .select
  name := "find"
  kind := .find
  table := table
  criteria := criteria
  options := options
  head := fun o => Clause.projection o.projections >>= fun projection =>
    table.written.map fun _ => findHead projection table
  size := criteria.size

/-- An update, with new values to set. -/
def guardedUpdate (table criteria updates options : Value) : Guarded where
  logger := .update
  name := "update"
  kind := .orderLimit
  table := table
  criteria := criteria
  options := options
  head := fun _ => table.written >>= fun _ => (Clause.assignments updates).map (updateHead table)
  size := updates.size >>= fun updated => criteria.size.map (updated + ·)

/-- A delete. -/
def guardedDelete (table criteria options : Value) : Guarded where
  logger := .delete
  name := "delete"
  kind := .orderLimit
  table := table
  criteria := criteria
  options := options
  head := fun _ => table.written.map fun _ => deleteHead table
  size := criteria.size

theorem find_eq_build (table criteria options : Value) :
    find table criteria options = (guardedFind table criteria options).build := by
  rw [find, Guarded.build]
  congr 1
  funext o
  rw [Guarded.buildWith, guardedFind]
  simp only [Build.lift_bind_bind, Build.lift_map_bind]
  rfl

theorem update_eq_build {updates : Value} (given : updates.isGiven = true)
    (table criteria options : Value) :
    update table criteria updates options =
      (guardedUpdate table criteria updates options).build := by
  rw [update, given, Guarded.build]
  show (Options.coerce options .orderLimit "update" >>= _) = _
  congr 1
  funext o
  rw [Guarded.buildWith, guardedUpdate]
  simp only [Build.lift_bind_bind, Build.lift_map_bind]
  rfl

theorem update_of_not_given {updates : Value} (not_given : updates.isGiven = false)
    (table criteria options : Value) :
    update table criteria updates options = Build.refuse .update [] (nothingToUpdate updates) := by
  rw [update, not_given]
  rfl

theorem delete_eq_build (table criteria options : Value) :
    delete table criteria options = (guardedDelete table criteria options).build := by
  rw [delete, Guarded.build]
  congr 1
  funext o
  rw [Guarded.buildWith, guardedDelete]
  simp only [Build.lift_map_bind]
  rfl

/-- An update binds the new values and those of the criteria. -/
theorem size_guardedUpdate (table options : Value) (cell place : Cell)
    (criteria updates : Entries) :
    (guardedUpdate table (.mapping cell criteria) (.mapping place updates) options).size =
      .ok (updates.length + criteria.length) := by
  rw [guardedUpdate, Value.size_mapping, Value.size_mapping]
  rfl

/-! ## Asking the settings -/

end Statement

theorem Options.coerce_heeds (options : Value) (kind : OptionsKind) (statement : String) :
    Build.Heeds (coerce options kind statement) false := by
  refine (Build.Heeds.lift _).andThen fun needed => ?_
  split
  · exact .pure _
  · exact .refuse .options [] _

namespace Statement.Guarded

variable {g : Guarded} {o : Options}

theorem asks_of_reached? (reached : g.reached? = some o) : g.asks = o.sort.isGiven := by
  rw [asks, reached, Option.any_some]

theorem asks_of_not_reached (not_reached : g.reached? = none) : g.asks = false := by
  rw [asks, not_reached, Option.any_none]

theorem record?_of_reached? (reached : g.reached? = some o) : g.record? = some o := by
  rw [reached?, Option.filter_eq_some_iff] at reached
  exact reached.1

/-- A record is reached if the head and the condition can be written. -/
theorem reached?_of_isOk (taken : g.record? = some o) (head : (g.head o).isOk = true)
    (condition : (Clause.condition g.criteria).isOk = true) : g.reached? = some o := by
  rw [reached?, Option.filter_eq_some_iff]
  exact ⟨taken, by rw [head, condition]; rfl⟩

theorem reached?_of_head_error {fault : Fault} (taken : g.record? = some o)
    (failed : g.head o = .error fault) : g.reached? = none := by
  rw [reached?, taken, Option.filter_some_neg]
  simp [failed, Except.isOk, Except.toBool]

theorem reached?_of_condition_error {fault : Fault} (taken : g.record? = some o)
    (failed : Clause.condition g.criteria = .error fault) : g.reached? = none := by
  rw [reached?, taken, Option.filter_some_neg]
  simp [failed, Except.isOk, Except.toBool]

theorem buildWith_heeds (taken : g.record? = some o) : Build.Heeds (g.buildWith o) g.asks := by
  unfold buildWith
  refine Build.Heeds.afterLift (fun head written => ?_) fun fault failed =>
    asks_of_not_reached (reached?_of_head_error taken failed)
  refine Build.Heeds.afterLift (fun condition stated => ?_) fun fault failed =>
    asks_of_not_reached (reached?_of_condition_error taken failed)
  have reached : g.reached? = some o :=
    reached?_of_isOk taken (by rw [written]; rfl) (by rw [stated]; rfl)
  rw [asks_of_reached? reached]
  refine (Clause.suffix_heeds o.sort o.limit o.offset).andThen fun suffix => ?_
  refine (Build.Heeds.lift _).andThen fun size => ?_
  exact (Build.Heeds.emit _).andThen fun _ => .pure _

/-- A statement asks the settings exactly if it comes to an ordering with columns. -/
theorem build_heeds (g : Guarded) : Build.Heeds g.build g.asks := by
  obtain ⟨reply, same⟩ := (Options.coerce_heeds g.options g.kind g.name).reply_of_deaf
  have comes (o : Options) (after : Desk) (taken : g.record? = some o) :
      reply.run after = (.ok o, after) := by
    rw [← same]
    exact Options.coerce_eq_ok_iff.2 ⟨taken, rfl⟩
  have taken_of_ok (o : Options) (ok : reply.outcome = .ok o) :
      g.record? = some o ∧ reply.events = [] := by
    have run : reply.run default = (.ok o, (default : Desk).recordAll reply.events) := by
      rw [Reply.run, ok]
    rw [← same] at run
    obtain ⟨taken, desks⟩ := Options.coerce_eq_ok_iff.1 run
    exact ⟨taken, (congrArg Desk.events desks).symm⟩
  rw [build, same]
  refine Build.Heeds.after (fun o ok => (taken_of_ok o ok).2)
    (fun o ok => buildWith_heeds (taken_of_ok o ok).1) fun fault failed => ?_
  refine asks_of_not_reached ?_
  cases taken : g.record? with
  | none => rw [reached?, taken, Option.filter_none]
  | some o =>
    have ok := congrArg Prod.fst (comes o default taken)
    exact absurd (failed.symm.trans ok) (by simp)

end Statement.Guarded

end SqlAssembly
