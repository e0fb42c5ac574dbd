import SqlAssembly.Build
import SqlAssembly.Value.Sequence

/-!
# Successful outcomes

What is known of the parts of something that has succeeded.  An operation made
of two succeeds exactly if the first one succeeds and then the second one, at
the desk that the first one left (`Build.bind_eq_ok_iff`); a result without
effects leaves the desk as it was.
-/

namespace SqlAssembly

namespace Build

variable {α β : Type} {desk after : Desk}

theorem bind_eq_ok_iff {first : Build α} {next : α → Build β} {b : β} :
    (first >>= next) desk = (.ok b, after) ↔
      ∃ a middle, first desk = (.ok a, middle) ∧ next a middle = (.ok b, after) := by
  rw [bind_apply]
  rcases first desk with ⟨fault | a, middle⟩
  · simp
  · constructor
    · intro later
      exact ⟨a, middle, rfl, later⟩
    · rintro ⟨_, _, same, later⟩
      cases same
      exact later

theorem lift_eq_ok_iff {result : Except Fault α} {a : α} :
    (liftM result : Build α) desk = (.ok a, after) ↔ result = .ok a ∧ desk = after := by
  rw [lift_apply, Prod.mk.injEq]

theorem pure_eq_ok_iff {a b : α} :
    (pure a : Build α) desk = (.ok b, after) ↔ a = b ∧ desk = after := by
  rw [pure_apply, Prod.mk.injEq, Except.ok.injEq]

theorem checked_eq_ok_iff {logger : Logger} {result : Except Fault α} {a : α} :
    checked logger result desk = (.ok a, after) ↔ result = .ok a ∧ desk = after := by
  unfold checked
  split
  · simp
  · exact lift_eq_ok_iff

end Build

/-! ## Results without effects -/

theorem map_eq_ok_iff {α β : Type} {result : Except Fault α} {f : α → β} {b : β} :
    result.map f = .ok b ↔ ∃ a, result = .ok a ∧ f a = b := by
  cases result with
  | ok a => simp [Except.map]
  | error fault => simp [Except.map]

theorem bind_eq_ok_iff {α β : Type} {result : Except Fault α} {next : α → Except Fault β} {b : β} :
    (result >>= next) = .ok b ↔ ∃ a, result = .ok a ∧ next a = .ok b := by
  cases result with
  | ok a => simp [bind, Except.bind]
  | error fault => simp [bind, Except.bind]

namespace Value

theorem unlessLimited_eq_ok_iff {α : Type} {limit : Option WritingLimit} {written a : α} :
    unlessLimited limit written = .ok a ↔ limit = none ∧ written = a := by
  cases limit <;> simp [unlessLimited]

theorem unlessLimited_eq_error_iff {α : Type} {limit : Option WritingLimit} {written : α}
    {fault : Fault} : unlessLimited limit written = .error fault ↔
      ∃ found, limit = some found ∧ fault = .unwritable found := by
  cases limit <;> simp [unlessLimited, eq_comm]

/-- Values that can be joined are texts, and what is joined are those texts. -/
theorem texts_eq_ok {position : Nat} {vs : List Value} {ss : List String}
    (joined : texts position vs = .ok ss) : ss = vs.filterMap text? := by
  induction vs generalizing position ss with
  | nil =>
    cases joined
    rfl
  | cons v vs ih =>
    unfold texts at joined
    split at joined
    · next s isText =>
      obtain ⟨rest, more, rfl⟩ := map_eq_ok_iff.1 joined
      rw [List.filterMap_cons_some isText, ih more]
    · cases joined

theorem joinItems_eq_ok {separator text : String} {vs : List Value}
    (joined : joinItems separator vs = .ok text) :
    text = separator.intercalate (vs.filterMap text?) := by
  obtain ⟨ss, texts, rfl⟩ := map_eq_ok_iff.1 joined
  rw [texts_eq_ok texts]

end Value

end SqlAssembly
