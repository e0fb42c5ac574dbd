import Mathlib.Data.List.Induction
import SqlAssembly.Settings.Environment

/-!
# Named texts

Texts that are put one after the other under names stand under each name once
(`Bindings.nodup_foldl_put`).

The last text under a name, whatever its case, is the last one that was put
there, as long as names that are equal but for their case are spelled in one way
(`Bindings.last?_foldl_put`).
-/

namespace SqlAssembly.Bindings

variable {α : Type}

/-! ## Putting -/

/-- What is true of the values under names and of a new one is true when that is put among them. -/
theorem forall_put {P : α → Prop} {fields : Bindings α}
    (all : ∀ field ∈ fields, P field.2) (name : String) {a : α} (here : P a) :
    ∀ field ∈ fields.put name a, P field.2 := by
  induction fields with
  | nil => exact List.forall_mem_singleton.2 here
  | cons first rest ih =>
    obtain ⟨old, current⟩ := first
    obtain ⟨first_has, rest_have⟩ := List.forall_mem_cons.1 all
    intro field among
    simp only [put] at among
    split at among
    · rcases List.mem_cons.1 among with rfl | later
      · exact here
      · exact rest_have field later
    · rcases List.mem_cons.1 among with rfl | later
      · exact first_has
      · exact ih rest_have field later

theorem mem_map_fst_put {bindings : Bindings α} {name other : String} {a : α} :
    other ∈ (bindings.put name a).map Prod.fst ↔ other = name ∨ other ∈ bindings.map Prod.fst := by
  induction bindings with
  | nil => simp [put]
  | cons first rest ih =>
    obtain ⟨old, b⟩ := first
    rw [put]
    split
    · next same =>
      obtain rfl := eq_of_beq same
      simp
    · simp only [List.map_cons, List.mem_cons, ih]
      exact or_left_comm

theorem nodup_put {bindings : Bindings α} (distinct : (bindings.map Prod.fst).Nodup)
    (name : String) (a : α) : ((bindings.put name a).map Prod.fst).Nodup := by
  induction bindings with
  | nil => simp [put]
  | cons first rest ih =>
    obtain ⟨old, b⟩ := first
    rw [List.map_cons, List.nodup_cons] at distinct
    rw [put]
    split
    · simpa using distinct
    · next apart =>
      rw [List.map_cons, List.nodup_cons, mem_map_fst_put, not_or]
      exact ⟨⟨ne_of_beq_false (Bool.not_eq_true _ ▸ apart), distinct.1⟩, ih distinct.2⟩

/-- What is put under names one after the other stands under each of them once. -/
theorem nodup_foldl_put (pairs before : Bindings α) (distinct : (before.map Prod.fst).Nodup) :
    ((pairs.foldl (fun kept pair => kept.put pair.1 pair.2) before).map Prod.fst).Nodup := by
  induction pairs generalizing before with
  | nil => exact distinct
  | cons pair rest ih => exact ih _ (nodup_put distinct pair.1 pair.2)

theorem put_of_not_mem {bindings : Bindings α} {name : String}
    (absent : name ∉ bindings.map Prod.fst) (a : α) :
    bindings.put name a = bindings ++ [(name, a)] := by
  induction bindings with
  | nil => rfl
  | cons first rest ih =>
    obtain ⟨old, b⟩ := first
    rw [List.map_cons, List.mem_cons, not_or] at absent
    have apart : (old == name) = false := beq_false_of_ne (Ne.symm absent.1)
    rw [put, apart, ih absent.2]
    rfl

/-- Putting under names that are there once adds one after the other. -/
theorem foldl_put_of_nodup (before pairs : Bindings α)
    (distinct : ((before ++ pairs).map Prod.fst).Nodup) :
    pairs.foldl (fun kept pair => kept.put pair.1 pair.2) before = before ++ pairs := by
  induction pairs generalizing before with
  | nil => exact (List.append_nil before).symm
  | cons pair rest ih =>
    obtain ⟨name, a⟩ := pair
    have absent : name ∉ before.map Prod.fst := by
      rw [List.map_append, List.nodup_append] at distinct
      exact fun among => distinct.2.2 name among name (by simp) rfl
    rw [List.foldl_cons, put_of_not_mem absent, ih _ (by simpa using distinct),
      List.append_assoc]
    rfl

theorem mem_map_fst_foldl_put (pairs before : Bindings α) (name : String) :
    name ∈ (pairs.foldl (fun kept pair => kept.put pair.1 pair.2) before).map Prod.fst ↔
      name ∈ pairs.map Prod.fst ∨ name ∈ before.map Prod.fst := by
  induction pairs generalizing before with
  | nil => simp
  | cons pair rest ih =>
    rw [List.foldl_cons, ih, mem_map_fst_put, List.map_cons, List.mem_cons]
    tauto

/-! ## The last text under a name -/

theorem folded_eq (name : String) : folded name = String.ofList (name.toList.map Char.toLower) := by
  rw [← String.toList_inj, folded, String.toList_map, String.toList_ofList]

theorem last?_append (first second : Bindings α) (name : String) :
    last? (first ++ second) name = (second.last? name).or (first.last? name) := by
  rw [last?, List.reverse_append, List.find?_append, Option.map_or]
  rfl

theorem last?_singleton (pair : String × α) (name : String) :
    last? [pair] name = if folded pair.1 = folded name then some pair.2 else none := by
  by_cases same : folded pair.1 = folded name
  · simp [last?, same]
  · simp [last?, same]

theorem last?_cons (pair : String × α) (rest : Bindings α) (name : String) :
    last? (pair :: rest) name =
      (rest.last? name).or (if folded pair.1 = folded name then some pair.2 else none) := by
  rw [← last?_singleton]
  exact last?_append [pair] rest name

theorem last?_eq_none_iff {bindings : Bindings α} {name : String} :
    bindings.last? name = none ↔ ∀ pair ∈ bindings, folded pair.1 ≠ folded name := by
  simp [last?]

theorem last?_eq_some_iff {bindings : Bindings α} {name : String} {a : α} :
    bindings.last? name = some a ↔ ∃ before spelled after,
      bindings = before ++ (spelled, a) :: after ∧ folded spelled = folded name ∧
        ∀ later ∈ after, folded later.1 ≠ folded name := by
  constructor
  · intro found
    obtain ⟨⟨spelled, b⟩, is_last, rfl⟩ := Option.map_eq_some_iff.1 found
    obtain ⟨same, after, before, split, none_later⟩ := List.find?_eq_some_iff_append.1 is_last
    refine ⟨before.reverse, spelled, after.reverse, ?_, by simpa using same, fun later among => ?_⟩
    · simpa using congrArg List.reverse split
    · simpa using none_later later (List.mem_reverse.1 among)
  · rintro ⟨before, spelled, after, rfl, same, none_later⟩
    rw [last?_append, last?_cons, last?_eq_none_iff.2 none_later, if_pos same]
    rfl

/-- A text under a name is the last one, if no other name is equal to it but for its case. -/
theorem last?_of_mem {bindings : Bindings α} {name spelled : String} {a : α}
    (distinct : bindings.Pairwise fun first second => folded first.1 ≠ folded second.1)
    (among : (spelled, a) ∈ bindings) (same : folded spelled = folded name) :
    bindings.last? name = some a := by
  obtain ⟨before, after, rfl⟩ := List.append_of_mem among
  have later := (List.pairwise_cons.1 (List.pairwise_append.1 distinct).2.1).1
  exact last?_eq_some_iff.2 ⟨before, spelled, after, rfl, same,
    fun pair in_after => same ▸ (later pair in_after).symm⟩

/-- What a test leaves out does not matter for a name if it leaves out nothing under it. -/
theorem last?_filter_of_kept {kept : String × α → Bool} {name : String} {bindings : Bindings α}
    (all : ∀ pair ∈ bindings, folded pair.1 = folded name → kept pair = true) :
    last? (bindings.filter kept) name = bindings.last? name := by
  induction bindings with
  | nil => rfl
  | cons pair rest ih =>
    obtain ⟨here, later⟩ := List.forall_mem_cons.1 all
    rw [last?_cons, List.filter_cons]
    split
    · rw [last?_cons, ih later]
    · next left_out =>
      rw [ih later, if_neg fun same => left_out (here same), Option.or_none]

/-- Only what is under the names that a test picks matters for a name that it picks. -/
theorem last?_filter {picked : String → Bool} {name : String}
    (all : ∀ spelled, folded spelled = folded name → picked spelled = true)
    (bindings : Bindings α) :
    last? (bindings.filter fun pair => picked pair.1) name = bindings.last? name :=
  last?_filter_of_kept fun pair _ same => all pair.1 same

/-- The last text under a name is the one under its exact spelling, if that is the only one and is
there once. -/
theorem last?_eq_get? {bindings : Bindings α} {name : String}
    (distinct : (bindings.map Prod.fst).Nodup)
    (one_way : ∀ spelled ∈ bindings.map Prod.fst, folded spelled = folded name → spelled = name) :
    bindings.last? name = bindings.get? name := by
  induction bindings with
  | nil => rfl
  | cons pair rest ih =>
    rw [List.map_cons, List.nodup_cons] at distinct
    rw [List.map_cons, List.forall_mem_cons] at one_way
    rw [last?_cons, get?, List.find?_cons]
    by_cases same : pair.1 = name
    · have none_later : last? rest name = none := by
        refine last?_eq_none_iff.2 fun later among again => distinct.1 ?_
        have named : later.1 ∈ rest.map Prod.fst := List.mem_map_of_mem among
        exact (one_way.2 _ named again).trans same.symm ▸ named
      simp [none_later, same]
    · have apart : folded pair.1 ≠ folded name := fun again => same (one_way.1 again)
      rw [if_neg apart, Option.or_none, ih distinct.2 one_way.2, beq_false_of_ne same]
      rfl

theorem last?_put_of_ne {name other : String} (apart : folded name ≠ folded other)
    (bindings : Bindings α) (a : α) :
    (bindings.put name a).last? other = bindings.last? other := by
  induction bindings with
  | nil => exact (last?_singleton _ _).trans (if_neg apart)
  | cons pair rest ih =>
    obtain ⟨old, b⟩ := pair
    rw [put]
    split
    · next same =>
      obtain rfl := beq_iff_eq.1 same
      rw [last?_cons, if_neg apart, last?_cons, if_neg apart]
    · rw [last?_cons, ih, last?_cons]

/-- A text that is put under a name is the last one under it, if no other spelling of the name has
a text. -/
theorem last?_put_of_eq {name other : String} (same : folded name = folded other)
    {bindings : Bindings α} (distinct : (bindings.map Prod.fst).Nodup)
    (one_way : ∀ spelled ∈ bindings.map Prod.fst, folded spelled = folded name → spelled = name)
    (a : α) : (bindings.put name a).last? other = some a := by
  induction bindings with
  | nil => exact (last?_singleton _ _).trans (if_pos same)
  | cons pair rest ih =>
    obtain ⟨old, b⟩ := pair
    rw [List.map_cons, List.nodup_cons] at distinct
    rw [List.map_cons, List.forall_mem_cons] at one_way
    rw [put]
    split
    · next is_old =>
      obtain rfl := beq_iff_eq.1 is_old
      have none_later : last? rest other = none := by
        refine last?_eq_none_iff.2 fun later among again => distinct.1 ?_
        have named : later.1 ∈ rest.map Prod.fst := List.mem_map_of_mem among
        exact one_way.2 _ named (again.trans same.symm) ▸ named
      rw [last?_cons, none_later, if_pos same]
      rfl
    · rw [last?_cons, ih distinct.2 one_way.2]
      rfl

/-- Whether names that are equal but for their case are spelled in one way. -/
def OneWay (names : List String) : Prop :=
  ∀ name ∈ names, ∀ other ∈ names, folded name = folded other → name = other

theorem last?_foldl_put {pairs : Bindings α} (one_way : OneWay (pairs.map Prod.fst))
    (name : String) :
    last? (pairs.foldl (fun kept pair => kept.put pair.1 pair.2) []) name = pairs.last? name := by
  -- From the end, where the text that counts is put last: it takes the place of an older one.
  induction pairs using List.reverseRecOn with
  | nil => rfl
  | append_singleton pairs pair ih =>
    have earlier : ∀ spelled ∈ pairs.map Prod.fst,
        spelled ∈ (pairs ++ [pair]).map Prod.fst := by
      intro spelled among
      rw [List.map_append]
      exact List.mem_append_left _ among
    have last : pair.1 ∈ (pairs ++ [pair]).map Prod.fst := by simp
    rw [List.foldl_append, List.foldl_cons, List.foldl_nil, last?_append, last?_singleton]
    by_cases same : folded pair.1 = folded name
    · rw [if_pos same, last?_put_of_eq same (nodup_foldl_put pairs [] List.nodup_nil)]
      · rfl
      · intro spelled among
        rw [mem_map_fst_foldl_put] at among
        obtain among | none_before := among
        · exact one_way spelled (earlier spelled among) pair.1 last
        · cases none_before
    · rw [if_neg same, last?_put_of_ne same, Option.none_or]
      exact ih fun spelled among other again =>
        one_way spelled (earlier spelled among) other (earlier other again)

end SqlAssembly.Bindings
