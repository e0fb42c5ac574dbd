import Mathlib.Data.List.Forall2
import SqlAssembly.Session.Basic

/-!
# Alike outcomes

Two outcomes are *alike* if both are results and those are related, or if both
are faults and those differ in nothing but the value of a refused argument
(`Alike`).  What may differ there is a parameter.

Two operations are alike if from every desk they come to alike outcomes and
leave the same desk, with the same events on it.  Operations made of alike steps
are alike (`Build.Alike.bind`), and what is done in a session is alike then, with
the same lines in the journal (`Build.Alike.work`).
-/

namespace SqlAssembly

/-- Outcomes that are related results, or faults which differ in a refused value at most. -/
inductive Alike (differ : Value → Value → Prop) {α : Type} (related : α → α → Prop) :
    Except Fault α → Except Fault α → Prop
  | ok {a b : α} (same : related a b) : Alike differ related (.ok a) (.ok b)
  | fault (fault : Fault) : Alike differ related (.error fault) (.error fault)
  | refused {error : InvalidArgument} {v : Value} (differs : differ error.value v) :
      Alike differ related (.error (.invalidArgument error))
        (.error (.invalidArgument { error with value := v }))

namespace Alike

variable {differ : Value → Value → Prop} {α β : Type} {related : α → α → Prop}
  {related' : β → β → Prop}

theorem refl (reflexive : ∀ a, related a a) (outcome : Except Fault α) :
    Alike differ related outcome outcome := by
  cases outcome with
  | ok a => exact .ok (reflexive a)
  | error fault => exact .fault fault

theorem bind {first second : Except Fault α} {f g : α → Except Fault β}
    (alike : Alike differ related first second)
    (next : ∀ a b, related a b → Alike differ related' (f a) (g b)) :
    Alike differ related' (first >>= f) (second >>= g) := by
  cases alike with
  | ok same => exact next _ _ same
  | fault fault => exact .fault fault
  | refused differs => exact .refused differs

/-- What comes after one outcome need only be alike for each result. -/
theorem bind_same (first : Except Fault α) {f g : α → Except Fault β}
    (next : ∀ a, Alike differ related' (f a) (g a)) :
    Alike differ related' (first >>= f) (first >>= g) := by
  cases first with
  | ok a => exact next a
  | error fault => exact .fault fault

variable [Machine]

/-- Alike faults have the same message, and say the same of themselves. -/
theorem message_eq {first second : Fault}
    (alike : Alike differ related (.error first) (.error second)) :
    first.message = second.message ∧ first.fields = second.fields := by
  cases alike with
  | fault fault => exact ⟨rfl, rfl⟩
  | refused differs => exact ⟨rfl, rfl⟩

end Alike

namespace Build

/-- Operations that come to alike outcomes and leave the same desk. -/
def Alike (differ : Value → Value → Prop) {α : Type} (related : α → α → Prop)
    (first second : Build α) : Prop :=
  ∀ desk, SqlAssembly.Alike differ related (first desk).1 (second desk).1 ∧
    (first desk).2 = (second desk).2

namespace Alike

variable {differ : Value → Value → Prop} {α β : Type} {related : α → α → Prop}
  {related' : β → β → Prop}

theorem refl (reflexive : ∀ a, related a a) (work : Build α) :
    Alike differ related work work := fun _ => ⟨.refl reflexive _, rfl⟩

theorem pure {a b : α} (same : related a b) :
    Alike differ related (Pure.pure a : Build α) (Pure.pure b) := fun _ => ⟨.ok same, rfl⟩

theorem lift {first second : Except Fault α}
    (alike : SqlAssembly.Alike differ related first second) :
    Alike differ related (liftM first : Build α) (liftM second) := fun _ => ⟨alike, rfl⟩

theorem bind {first second : Build α} {f g : α → Build β}
    (alike : Alike differ related first second)
    (next : ∀ a b, related a b → Alike differ related' (f a) (g b)) :
    Alike differ related' (first >>= f) (second >>= g) := by
  intro desk
  have both := alike desk
  rw [bind_apply, bind_apply]
  generalize first desk = run at both
  generalize second desk = run' at both
  obtain ⟨outcome, after⟩ := run
  obtain ⟨outcome', after'⟩ := run'
  obtain ⟨outcomes, desks⟩ := both
  cases desks
  cases outcomes with
  | ok same => exact next _ _ same after
  | fault fault => exact ⟨.fault fault, rfl⟩
  | refused differs => exact ⟨.refused differs, rfl⟩

theorem bind_same (first : Build α) {f g : α → Build β}
    (next : ∀ a, Alike differ related' (f a) (g a)) :
    Alike differ related' (first >>= f) (first >>= g) := by
  intro desk
  rw [bind_apply, bind_apply]
  rcases first desk with ⟨fault | a, after⟩
  · exact ⟨.fault fault, rfl⟩
  · exact next a after

/-- A refusal says nothing of the value in its event. -/
theorem refuse {error : InvalidArgument} {v : Value} (differs : differ error.value v)
    (logger : Logger) (before : Bindings Detail) :
    Alike differ related (Build.refuse logger before error : Build α)
      (Build.refuse logger before { error with value := v }) := fun _ => ⟨.refused differs, rfl⟩

variable [Machine]

/-- Alike operations leave a session the same, and come to alike outcomes in it. -/
theorem work {first second : Build α} (alike : Alike differ related first second)
    (session : Session) :
    SqlAssembly.Alike differ related (Session.work first session).1
        (Session.work second session).1 ∧
      (Session.work first session).2 = (Session.work second session).2 := by
  have both := alike session.desk
  unfold Session.work
  generalize first session.desk = run at both
  generalize second session.desk = run' at both
  obtain ⟨outcome, after⟩ := run
  obtain ⟨outcome', after'⟩ := run'
  obtain ⟨outcomes, desks⟩ := both
  cases desks
  -- What is published is read off the desk alone, and a fault in it is the outcome of both.
  dsimp only
  generalize session.afterDesk after = published
  obtain ⟨_ | fault, session'⟩ := published
  · exact ⟨outcomes, rfl⟩
  · exact ⟨.fault fault, rfl⟩

end Alike

end Build

end SqlAssembly
