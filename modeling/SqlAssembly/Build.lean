import SqlAssembly.Journal.Event
import SqlAssembly.Settings.Basic

/-!
# Operations

An operation works at a desk: the environment, the settings once they are read,
and the events so far.  It either has a result or a fault, and leaves the desk
changed in both cases.

The settings are read when they are first asked for and then kept, so that a
later change of the environment does not show until they are forgotten.  A
reading that fails is not kept.

Events are recorded at the desk in order.  The journal gets them when the
operation has ended; no operation looks at them or at the journal, which is why
no setting of the journal can change what an operation does.
-/

namespace SqlAssembly

/-- What an operation works with. -/
structure Desk where
  /-- What settings are read from. -/
  environment : Environment
  /-- The settings, once they are read. -/
  cache : Option Settings
  /-- The events so far, oldest first. -/
  events : List Event
  deriving Inhabited, Repr

namespace Desk

/-- The settings in force, read from the environment if none are kept. -/
def readSettings (desk : Desk) : Except Report Settings × Desk :=
  match desk.cache with
  | some settings => (.ok settings, desk)
  | none => match Settings.load desk.environment with
    | .ok settings => (.ok settings, { desk with cache := some settings })
    | .error report => (.error report, desk)

/-- The desk with an event more. -/
def record (desk : Desk) (event : Event) : Desk := { desk with events := desk.events ++ [event] }

end Desk

/-- An operation with a result of a given type. -/
def Build (α : Type) : Type := Desk → Except Fault α × Desk

namespace Build

variable {α β : Type}

instance : Monad Build where
  pure a := fun desk => (.ok a, desk)
  bind first next := fun desk => match first desk with
    | (.ok a, desk) => next a desk
    | (.error fault, desk) => (.error fault, desk)

instance : MonadLift (Except Fault) Build where
  monadLift result := fun desk => (result, desk)

/-- The operation that fails. -/
def fail (fault : Fault) : Build α := fun desk => (.error fault, desk)

/-- The operation that records an event. -/
def emit (event : Event) : Build Unit := fun desk => (.ok (), desk.record event)

/-- The operation that records the event of a refused argument and fails. -/
def refuse (logger : Logger) (before : Bindings Detail) (error : InvalidArgument) : Build α := do
  emit (error.event logger before)
  fail (.invalidArgument error)

/-- The operation that comes to a result; it records the event of an argument refused there. -/
def checked (logger : Logger) : Except Fault α → Build α
  | .error (.invalidArgument error) => refuse logger [] error
  | result => liftM result

/-- The settings in force, or what keeps them from being read. -/
def settings : Build (Except Report Settings) := fun desk =>
  let (settings, desk) := desk.readSettings
  (.ok settings, desk)

/-! ## Running -/

@[simp] theorem pure_apply (a : α) (desk : Desk) : (pure a : Build α) desk = (.ok a, desk) := rfl

theorem bind_apply (first : Build α) (next : α → Build β) (desk : Desk) :
    (first >>= next) desk = match first desk with
      | (.ok a, desk) => next a desk
      | (.error fault, desk) => (.error fault, desk) := rfl

theorem bind_of_ok {first : Build α} {next : α → Build β} {desk after : Desk} {a : α}
    (h : first desk = (.ok a, after)) : (first >>= next) desk = next a after := by
  rw [bind_apply, h]

theorem bind_of_error {first : Build α} {next : α → Build β} {desk after : Desk} {fault : Fault}
    (h : first desk = (.error fault, after)) : (first >>= next) desk = (.error fault, after) := by
  rw [bind_apply, h]

@[simp] theorem lift_apply (result : Except Fault α) (desk : Desk) :
    (liftM result : Build α) desk = (result, desk) := rfl

@[simp] theorem emit_apply (event : Event) (desk : Desk) :
    emit event desk = (.ok (), desk.record event) := rfl

@[simp] theorem refuse_apply (logger : Logger) (before : Bindings Detail)
    (error : InvalidArgument) (desk : Desk) :
    (refuse logger before error : Build α) desk =
      (.error (.invalidArgument error), desk.record (error.event logger before)) := rfl

@[simp] theorem checked_ok (logger : Logger) (a : α) :
    checked logger (.ok a) = (pure a : Build α) := rfl

@[simp] theorem checked_invalidArgument (logger : Logger) (error : InvalidArgument) :
    (checked logger (.error (.invalidArgument error)) : Build α) = refuse logger [] error := rfl

end Build

end SqlAssembly
