import Mathlib.Tactic.Choose
import SqlAssembly.Clause

/-!
# What operations ask of the settings

An operation asks the settings at most one thing, and at most once: whether
directions have to be one of the two.  Settings that cannot be read count as a
no, and that is recorded (`Clause.strictness_apply`).

So there are two shapes of operations.  One that does not ask comes to one
*reply*, an outcome and events, at every desk.  One that asks has a reply for
each answer.  `Build.Heeds` says which of the two an operation is; operations
made of others are seen to have one of the shapes by `Build.Heeds.andThen` and
`Build.Heeds.after`.
-/

namespace SqlAssembly

/-! ## Desks -/

namespace Desk

/-- The desk with more events. -/
def recordAll (desk : Desk) (events : List Event) : Desk :=
  { desk with events := desk.events ++ events }

/-- Whether directions have to be one of the two. -/
def isStrict (desk : Desk) : Bool :=
  match desk.readSettings.1 with
  | .ok settings => settings.strictSortDirection
  | .error _ => false

/-- The event that the settings cannot be read, if they cannot. -/
def unavailable (desk : Desk) : List Event :=
  match desk.readSettings.1 with
  | .ok _ => []
  | .error report => [Clause.settingsUnavailable report]

/-- The desk when the settings were asked. -/
def asked (desk : Desk) : Desk := desk.readSettings.2.recordAll desk.unavailable

@[simp] theorem recordAll_nil (desk : Desk) : desk.recordAll [] = desk := by
  simp [recordAll]

@[simp] theorem recordAll_recordAll (desk : Desk) (first second : List Event) :
    (desk.recordAll first).recordAll second = desk.recordAll (first ++ second) := by
  simp [recordAll, List.append_assoc]

theorem record_eq_recordAll (desk : Desk) (event : Event) :
    desk.record event = desk.recordAll [event] := rfl

/-- Reading the settings changes nothing but what is kept of them. -/
theorem readSettings_snd (desk : Desk) :
    desk.readSettings.2 =
      { desk with cache := desk.cache.or (Settings.load desk.environment).toOption } := by
  unfold readSettings
  obtain ⟨environment, cache, events⟩ := desk
  cases cache with
  | some settings => rfl
  | none => cases Settings.load environment <;> rfl

@[simp] theorem events_asked (desk : Desk) :
    desk.asked.events = desk.events ++ desk.unavailable := by
  simp [asked, recordAll, readSettings_snd]

@[simp] theorem cache_asked (desk : Desk) :
    desk.asked.cache = desk.cache.or (Settings.load desk.environment).toOption := by
  simp [asked, recordAll, readSettings_snd]

end Desk

theorem Clause.strictness_apply (desk : Desk) :
    strictness desk = (.ok desk.isStrict, desk.asked) := by
  rw [strictness, Build.bind_apply, Desk.isStrict, Desk.asked, Desk.unavailable]
  simp only [Build.settings]
  cases desk.readSettings.1 with
  | ok settings => simp
  | error report => simp [Build.bind_apply, Desk.record_eq_recordAll]

/-! ## Replies -/

/-- An outcome with events. -/
structure Reply (α : Type) where
  /-- The result or the fault. -/
  outcome : Except Fault α
  /-- The events, oldest first. -/
  events : List Event

namespace Reply

variable {α β : Type}

/-- The operation that comes to the reply at every desk. -/
def run (reply : Reply α) : Build α := fun desk => (reply.outcome, desk.recordAll reply.events)

/-- A reply that goes on with a result, or ends with a fault. -/
def bind (first : Reply α) (next : α → Reply β) : Reply β :=
  match first.outcome with
  | .ok a => ⟨(next a).outcome, first.events ++ (next a).events⟩
  | .error fault => ⟨.error fault, first.events⟩

/-- A result of a check, recorded if it refuses an argument. -/
def checked (logger : Logger) : Except Fault α → Reply α
  | .error (.invalidArgument error) => ⟨.error (.invalidArgument error), [error.event logger []]⟩
  | result => ⟨result, []⟩

theorem run_checked (logger : Logger) (result : Except Fault α) :
    (checked logger result).run = Build.checked logger result := by
  funext desk
  unfold checked Build.checked
  split
  · rfl
  · simp [run]

theorem run_bind (first : Reply α) (next : α → Reply β) :
    (first.run >>= fun a => (next a).run) = (first.bind next).run := by
  funext desk
  simp only [Build.bind_apply, run, bind]
  cases first.outcome with
  | ok a => simp
  | error fault => rfl

end Reply

/-! ## Two shapes of operations -/

namespace Build

variable {α β γ : Type}

theorem bind_assoc (first : Build α) (second : α → Build β) (third : β → Build γ) :
    first >>= second >>= third = first >>= fun a => second a >>= third := by
  funext desk
  simp only [bind_apply]
  rcases first desk with ⟨fault | a, middle⟩ <;> rfl

/-- Whether an operation asks the settings, and what it comes to in either case. -/
inductive Heeds (work : Build α) : Bool → Prop
  /-- It comes to one reply at every desk. -/
  | deaf (reply : Reply α) (same : work = reply.run) : Heeds work false
  /-- It asks the settings first, and has a reply for each answer. -/
  | asking (reply : Bool → Reply α)
      (same : work = Clause.strictness >>= fun strict => (reply strict).run) : Heeds work true

namespace Heeds

theorem pure (a : α) : Heeds (Pure.pure a : Build α) false :=
  .deaf ⟨.ok a, []⟩ (by funext desk; simp [Reply.run])

theorem lift (result : Except Fault α) : Heeds (liftM result : Build α) false :=
  .deaf ⟨result, []⟩ (by funext desk; simp [Reply.run])

theorem emit (event : Event) : Heeds (Build.emit event) false := .deaf ⟨.ok (), [event]⟩ rfl

theorem refuse (logger : Logger) (before : Bindings Detail) (error : InvalidArgument) :
    Heeds (Build.refuse logger before error : Build α) false :=
  .deaf ⟨.error (.invalidArgument error), [error.event logger before]⟩ rfl

theorem checked (logger : Logger) (result : Except Fault α) :
    Heeds (Build.checked logger result) false :=
  .deaf (.checked logger result) (Reply.run_checked logger result).symm

theorem strictness : Heeds Clause.strictness true :=
  .asking (fun strict => ⟨.ok strict, []⟩) (by
    funext desk
    simp [bind_apply, Clause.strictness_apply, Reply.run])

theorem reply_of_deaf {work : Build α} (deaf : Heeds work false) :
    ∃ reply : Reply α, work = reply.run := by
  cases deaf with
  | deaf reply same => exact ⟨reply, same⟩

/-- What does not ask after an operation has one reply for each result of that, chosen
beforehand. -/
theorem replies_of_deaf {next : α → Build β} (deaf : ∀ a, Heeds (next a) false) :
    ∃ later : α → Reply β, next = fun a => (later a).run := by
  choose later same_later using fun a => (deaf a).reply_of_deaf
  exact ⟨later, funext same_later⟩

/-- What comes after an operation may not ask again. -/
theorem andThen {first : Build α} {next : α → Build β} {asks : Bool} (heeds : Heeds first asks)
    (deaf : ∀ a, Heeds (next a) false) : Heeds (first >>= next) asks := by
  obtain ⟨later, rfl⟩ := replies_of_deaf deaf
  cases heeds with
  | deaf reply same => exact .deaf (reply.bind later) (by rw [same, Reply.run_bind])
  | asking reply same =>
    refine .asking (fun strict => (reply strict).bind later) ?_
    rw [same, bind_assoc]
    simp only [Reply.run_bind]

/-- What comes after an operation that does not ask, and records nothing when it succeeds, is done
from every desk or from none. -/
theorem after {reply : Reply α} {next : α → Build β} {asks : Bool}
    (silent : ∀ a, reply.outcome = .ok a → reply.events = [])
    (heeds : ∀ a, reply.outcome = .ok a → Heeds (next a) asks)
    (ends : ∀ fault, reply.outcome = .error fault → asks = false) :
    Heeds (reply.run >>= next) asks := by
  obtain ⟨outcome, events⟩ := reply
  cases outcome with
  | error fault =>
    obtain rfl := ends fault rfl
    exact .deaf ⟨.error fault, events⟩ rfl
  | ok a =>
    obtain rfl : events = [] := silent a rfl
    have first : ((⟨.ok a, []⟩ : Reply α).run >>= next) = next a := by
      funext desk
      simp [bind_apply, Reply.run]
    rw [first]
    exact heeds a rfl

/-- A result without effects may come first. -/
theorem afterLift {result : Except Fault α} {next : α → Build β} {asks : Bool}
    (heeds : ∀ a, result = .ok a → Heeds (next a) asks)
    (ends : ∀ fault, result = .error fault → asks = false) :
    Heeds ((liftM result : Build α) >>= next) asks := by
  have same : (liftM result : Build α) = (⟨result, []⟩ : Reply α).run := by
    funext desk
    simp [Reply.run]
  rw [same]
  exact after (fun _ _ => rfl) heeds ends

end Heeds

end Build

/-! ## Orderings -/

namespace Clause

variable [Machine]

/-- An ordering asks the settings exactly if there is something to order by. -/
theorem ordering_heeds (sort : Value) : Build.Heeds (ordering sort) sort.isGiven := by
  unfold ordering
  cases sort.isGiven with
  | false => exact .pure ""
  | true =>
    refine Build.Heeds.strictness.andThen fun strict => ?_
    refine (Build.Heeds.lift _).andThen fun entries => ?_
    exact (Build.Heeds.checked .clauses _).andThen fun columns => .pure _

theorem suffix_heeds (sort limit offset : Value) :
    Build.Heeds (suffix sort limit offset) sort.isGiven := by
  refine (ordering_heeds sort).andThen fun order => ?_
  have ended : Build.Heeds ((liftM (Value.writable (window limit offset)) : Build (List Value)) >>=
      fun _ => pure (joined (order :: windowFragments limit offset))) false :=
    (Build.Heeds.lift _).andThen fun _ => .pure _
  split
  · exact (Build.Heeds.emit _).andThen fun _ => ended
  · exact ended

/-- An ordering of columns, given the answer of the settings. -/
theorem ordering_mapping (cell : Cell) {entries : Entries} (some_entries : entries ≠ [])
    (desk : Desk) :
    ordering (.mapping cell entries) desk =
      (Build.checked .clauses (orderedColumns desk.isStrict entries) >>= fun columns =>
        pure (orderingOf columns)) desk.asked := by
  have given : (Value.mapping cell entries).isGiven = true := by simpa using some_entries
  rw [ordering, if_pos given, Build.bind_apply, strictness_apply]
  rfl

/-- What keeps an ordering from being written is a limit, or a direction that strictness refuses. -/
theorem orderedColumns_eq_error {strict : Bool} {entries : Entries} {fault : Fault}
    (failed : orderedColumns strict entries = .error fault) :
    (∃ limit, (∃ entry ∈ entries, entryLimit? entry = some limit) ∧ fault = .unwritable limit) ∨
      strict = true ∧ ∃ column token,
        fault = .invalidArgument (unsupportedDirection column token) := by
  induction entries with
  | nil => cases failed
  | cons entry rest ih =>
    cases written : entryLimit? entry with
    | some limit =>
      rw [orderedColumns_of_limit strict written] at failed
      cases failed
      exact Or.inl ⟨limit, ⟨entry, List.mem_cons_self, written⟩, rfl⟩
    | none =>
      simp only [orderedColumns_of_written strict written] at failed
      split at failed
      · next none_of_them =>
        cases failed
        exact Or.inr ⟨(Bool.and_eq_true_iff.1 none_of_them).1, entry.1, _, rfl⟩
      · cases later : orderedColumns strict rest with
        | ok columns => simp [later, Except.map] at failed
        | error other =>
          simp only [later, Except.map, Except.error.injEq] at failed
          subst failed
          refine (ih later).imp ?_ id
          rintro ⟨limit, ⟨other, among, stopped⟩, same⟩
          exact ⟨limit, ⟨other, List.mem_cons_of_mem _ among, stopped⟩, same⟩

end Clause

end SqlAssembly
