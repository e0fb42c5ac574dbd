import SqlAssembly.Proofs.Secrecy.Alike
import SqlAssembly.Statement.Prepared

/-!
# Mappings with the same keys

Two mappings *have the same keys* if they hold the same keys in the same order;
under the keys may be anything (`Value.SameKeys`).  What operations ask of a
mapping is answered by its keys: whether it is given, its size, its items, and
whether something is found in it.  Only the values that are bound come from what
is under the keys, and then there are as many of them.

Two sequences of rows are the same up to values if rows in the same places have
the same keys (`Value.SameRows`).
-/

namespace SqlAssembly

namespace Value

/-- The same value, or mappings with the same keys in the same order. -/
inductive SameKeys : Value → Value → Prop
  | refl (v : Value) : SameKeys v v
  | mapping {cell cell' : Cell} {entries entries' : Entries}
      (keys : entries.keys = entries'.keys) :
      SameKeys (.mapping cell entries) (.mapping cell' entries')

/-- The same value, or sequences of one kind with rows that have the same keys. -/
inductive SameRows : Value → Value → Prop
  | refl (v : Value) : SameRows v v
  | list {cell cell' : Cell} {rows rows' : List Value} (same : List.Forall₂ SameKeys rows rows') :
      SameRows (.list cell rows) (.list cell' rows')
  | tuple {cell cell' : Cell} {rows rows' : List Value} (same : List.Forall₂ SameKeys rows rows') :
      SameRows (.tuple cell rows) (.tuple cell' rows')

end Value

theorem Entries.isSome_get? (entries : Entries) (key : Value) :
    (entries.get? key).isSome = entries.keys.any (·.same key) := by
  rw [Entries.get?, Option.isSome_map, Entries.keys, List.any_map, Bool.eq_iff_iff,
    List.find?_isSome, List.any_eq_true]
  rfl

namespace Value.SameKeys

variable {v w : Value}

theorem length_eq {entries entries' : Entries} (keys : entries.keys = entries'.keys) :
    entries.length = entries'.length := by
  rw [← Entries.length_keys, keys, Entries.length_keys]

theorem isGiven_eq (same : SameKeys v w) : v.isGiven = w.isGiven := by
  cases same with
  | refl => rfl
  | @mapping _ _ entries entries' keys =>
    rw [isGiven_mapping, isGiven_mapping]
    cases entries with
    | nil =>
      cases entries' with
      | nil => rfl
      | cons => cases keys
    | cons =>
      cases entries' with
      | nil => cases keys
      | cons => rfl

theorem items_eq (same : SameKeys v w) : v.items = w.items := by
  cases same with
  | refl => rfl
  | mapping keys => rw [items_mapping, items_mapping, keys]

theorem size_eq (same : SameKeys v w) : v.size = w.size := by
  cases same with
  | refl => rfl
  | mapping keys => rw [size_mapping, size_mapping, length_eq keys]

variable [Machine]

theorem holds_eq (same : SameKeys v w) (item : Value) : v.holds item = w.holds item := by
  cases same with
  | refl => rfl
  | mapping keys => simp only [holds, Entries.isSome_get?, keys]

omit [Machine] in
/-- An item is in both or in neither, and the faults are the same. -/
theorem item_alike {differ : Value → Value → Prop} (same : SameKeys v w) (index : Value) :
    Alike differ (fun _ _ => True) (v.item index) (w.item index) := by
  cases same with
  | refl => exact .refl (fun _ => trivial) _
  | @mapping _ _ entries entries' keys =>
    refine Alike.bind_same index.asKey fun key => ?_
    have found : (entries.get? key).isSome = (entries'.get? key).isSome := by
      rw [Entries.isSome_get?, Entries.isSome_get?, keys]
    cases here : entries.get? key with
    | none =>
      cases there : entries'.get? key with
      | none => exact .fault _
      | some u => simp [here, there] at found
    | some v =>
      cases there : entries'.get? key with
      | none => simp [here, there] at found
      | some u => exact .ok trivial

omit [Machine] in
/-- As many values are bound for both. -/
theorem values_alike {differ : Value → Value → Prop} {vs ws : List Value}
    (same : List.Forall₂ SameKeys vs ws) :
    Alike differ (fun params params' => params.length = params'.length) (Binding.values vs)
      (Binding.values ws) := by
  induction same with
  | nil => exact .ok rfl
  | @cons v w vs ws first _ ih =>
    have entries : Alike differ (fun entries entries' : Entries => entries.keys = entries'.keys)
        (v.entriesBy "values") (w.entriesBy "values") := by
      cases first with
      | refl =>
        apply Alike.refl
        intro entries
        rfl
      | mapping keys => exact .ok keys
    refine entries.bind fun entries entries' keys => ?_
    refine ih.bind fun more more' lengths => .ok ?_
    rw [List.length_append, List.length_append, lengths, Entries.length_values,
      Entries.length_values, length_eq keys]

end Value.SameKeys

namespace Value.SameRows

variable {differ : Value → Value → Prop} {rows rows' : Value}

theorem isGiven_eq (same : SameRows rows rows') : rows.isGiven = rows'.isGiven := by
  cases same with
  | refl => rfl
  | list same | tuple same =>
    cases same with
    | nil => rfl
    | cons _ _ => rfl

theorem size_eq (same : SameRows rows rows') : rows.size = rows'.size := by
  cases same with
  | refl => rfl
  | list same | tuple same => exact congrArg Except.ok same.length_eq

theorem items_alike (same : SameRows rows rows') :
    Alike differ (List.Forall₂ SameKeys) rows.items rows'.items := by
  cases same with
  | refl =>
    apply Alike.refl
    intro items
    exact List.forall₂_same.2 fun v _ => .refl v
  | list same | tuple same => exact .ok same

theorem itemsAfterFirst_alike (same : SameRows rows rows') :
    Alike differ (List.Forall₂ SameKeys) rows.itemsAfterFirst rows'.itemsAfterFirst := by
  cases same with
  | refl =>
    apply Alike.refl
    intro items
    exact List.forall₂_same.2 fun v _ => .refl v
  | list same | tuple same => exact .ok (List.forall₂_drop 1 same)

theorem itemAt_alike {kind : Kind} {vs ws : List Value} (same : List.Forall₂ SameKeys vs ws)
    (index : Value) : Alike differ SameKeys (itemAt kind vs index) (itemAt kind ws index) := by
  rw [itemAt, itemAt, same.length_eq]
  refine Alike.bind_same _ fun position => ?_
  induction same generalizing position with
  | nil => exact .fault _
  | cons first _ ih =>
    cases position with
    | zero => exact .ok first
    | succ position => exact ih position

theorem item_alike (same : SameRows rows rows') (index : Value) :
    Alike differ SameKeys (rows.item index) (rows'.item index) := by
  cases same with
  | refl =>
    apply Alike.refl
    exact .refl
  | list same | tuple same => exact itemAt_alike same index

end Value.SameRows

end SqlAssembly
