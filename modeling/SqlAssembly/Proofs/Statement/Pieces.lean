import SqlAssembly.Proofs.Statement.Direct

/-!
# Statements in pieces

A statement with options is joined in two stages: the end of the statement is
made of its ordering and its window, and is then joined to the head and the
condition.  An ordering or a window that is not there is an empty text, and so
may be the whole end.

Fragments can be joined in any stages (`Clause.mapM_joinTexts_bind`).  Hence a
statement is the same as if its pieces, from the head to the offset, were joined
at once (`Guarded.build_eq_flat`): it has the same text or the same fault, and
records the same events.  It is neat if its pieces are (`Guarded.neat_build`).
-/

namespace SqlAssembly

namespace Clause

/-! ## Joining in stages -/

/-- Texts that a caller joins. -/
def joinTexts (fragments : List String) : Except Fault String :=
  joinedValue (Value.ofItems (fragments.map .str))

theorem mapM_joinTexts (groups : List (List String)) :
    groups.mapM joinTexts = .ok (groups.map joined) := by
  induction groups with
  | nil => rfl
  | cons group rest ih =>
    rw [List.mapM_cons, joinTexts, joinedValue_map_str, ih]
    rfl

/-- Groups of texts, each of them joined and then all of the results, are the texts of all groups
joined. -/
theorem mapM_joinTexts_bind (groups : List (List String)) :
    groups.mapM joinTexts >>= joinTexts = joinTexts groups.flatten := by
  rw [mapM_joinTexts]
  show joinTexts (groups.map joined) = joinTexts groups.flatten
  rw [joinTexts, joinTexts, joinedValue_map_str, joinedValue_map_str, joined_map_joined]

theorem neat_of_joinTexts {fragments : List String}
    (neat : ∀ fragment ∈ fragments, fragment ≠ "" → Neat fragment) :
    ∃ text, joinTexts fragments = .ok text ∧ Neat text :=
  ⟨joined fragments, joinedValue_map_str fragments, neat_joined neat⟩

/-! ## The end of a statement -/

section

variable [Machine]

/-- The pieces of the end of a statement: its ordering, its limit and its offset. -/
def endPieces (sort limit offset : Value) : Build (List String) := do
  let order ← ordering sort
  if limit.kind = .null ∧ offset.kind ≠ .null then
    Build.emit (offsetDropped offset)
  let _ ← liftM (Value.writable (window limit offset))
  return order :: windowFragments limit offset

theorem suffix_eq_endPieces (sort limit offset : Value) :
    suffix sort limit offset = endPieces sort limit offset >>= fun pieces =>
      return joined pieces := by
  simp only [suffix, endPieces, Build.bind_assoc]
  congr 1
  funext order
  split <;> simp only [Build.bind_assoc] <;> rfl

end

end Clause

namespace Statement

section

variable [Machine]

namespace Guarded

/-! ## The whole statement -/

/-- The pieces of a statement, once a record is taken. -/
def pieces (g : Guarded) (o : Options) : Build (List String) := do
  let head ← liftM (g.head o)
  let condition ← liftM (Clause.condition g.criteria)
  let last ← Clause.endPieces o.sort o.limit o.offset
  return head :: condition :: last

/-- The statement, its pieces joined at once. -/
def flat (g : Guarded) : Build String := do
  let o ← Options.coerce g.options g.kind g.name
  let pieces ← g.pieces o
  let text ← liftM (Clause.joinTexts pieces)
  let size ← liftM g.size
  Build.emit (g.event size)
  return text

omit [Machine] in
theorem joinTexts_head_condition (head condition : String) (last : List String) :
    Clause.joinTexts (head :: condition :: last) =
      .ok (Clause.joined [head, condition, Clause.joined last]) := by
  have grouped : Clause.joined [head, condition, Clause.joined last] =
      Clause.joined (head :: condition :: last) :=
    Clause.joined_append_joined [head, condition] last
  rw [Clause.joinTexts, Clause.joinedValue_map_str, grouped]

/-- It does not matter that the end of a statement is joined first. -/
theorem build_eq_flat (g : Guarded) : g.build = g.flat := by
  have at_once (o : Options) : g.buildWith o = g.pieces o >>= fun pieces => do
      let text ← liftM (Clause.joinTexts pieces)
      let size ← liftM g.size
      Build.emit (g.event size)
      return text := by
    simp only [buildWith, pieces, Clause.suffix_eq_endPieces, Build.bind_assoc]
    congr 1
    funext head
    congr 1
    funext condition
    congr 1
    funext last
    show _ = (liftM (Clause.joinTexts (head :: condition :: last)) >>= _ : Build String)
    rw [joinTexts_head_condition]
    rfl
  rw [build, flat, funext at_once]

/-- A statement is neat if its pieces are. -/
theorem neat_build {g : Guarded} {desk after : Desk} {text : String}
    (built : g.build desk = (.ok text, after)) :
    ∃ (o : Options) (taken written : Desk) (pieces : List String),
      Options.coerce g.options g.kind g.name desk = (.ok o, taken) ∧
        g.pieces o taken = (.ok pieces, written) ∧
        ((∀ piece ∈ pieces, piece ≠ "" → Clause.Neat piece) → Clause.Neat text) := by
  rw [build_eq_flat] at built
  obtain ⟨o, taken, coerced, built⟩ := Build.bind_eq_ok_iff.1 built
  obtain ⟨pieces, written, in_pieces, built⟩ := Build.bind_eq_ok_iff.1 built
  obtain ⟨joined, _, at_once, built⟩ := Build.bind_eq_ok_iff.1 built
  obtain ⟨_, _, _, built⟩ := Build.bind_eq_ok_iff.1 built
  obtain ⟨_, _, _, built⟩ := Build.bind_eq_ok_iff.1 built
  obtain ⟨rfl, _⟩ := Build.pure_eq_ok_iff.1 built
  refine ⟨o, taken, written, pieces, coerced, in_pieces, fun neat => ?_⟩
  obtain ⟨text, joined_to, text_neat⟩ := Clause.neat_of_joinTexts neat
  have same := (Build.lift_eq_ok_iff.1 at_once).1
  rw [joined_to] at same
  rwa [← Except.ok.inj same]

end Guarded

/-- Texts that are joined in groups come to what they come to at once, whichever texts or groups
are empty, and nothing is joined of neat texts that is not neat.  So finds, updates and deletes,
whose ends are joined first, are their pieces joined at once: they have the same text or the same
fault, and record the same events. -/
theorem joined_in_stages :
    (∀ groups : List (List String), ∃ text,
      (groups.mapM Clause.joinTexts >>= Clause.joinTexts) = .ok text ∧
        Clause.joinTexts groups.flatten = .ok text) ∧
      (∀ fragments : List String,
        (∀ fragment ∈ fragments, fragment ≠ "" → Clause.Neat fragment) →
          ∃ text, Clause.joinTexts fragments = .ok text ∧ Clause.Neat text) ∧
      ∀ table criteria options : Value,
        find table criteria options = (guardedFind table criteria options).flat ∧
          (∀ updates : Value, update table criteria updates options =
            if updates.isGiven then (guardedUpdate table criteria updates options).flat
            else Build.refuse .update [] (nothingToUpdate updates)) ∧
          delete table criteria options = (guardedDelete table criteria options).flat := by
  refine ⟨?stages, fun _ neat => Clause.neat_of_joinTexts neat, fun table criteria options =>
    ⟨?find, ?update, ?delete⟩⟩
  case stages =>
    intro groups
    have at_once : Clause.joinTexts groups.flatten = .ok (Clause.joined groups.flatten) :=
      Clause.joinedValue_map_str groups.flatten
    exact ⟨_, (Clause.mapM_joinTexts_bind groups).trans at_once, at_once⟩
  case find => rw [find_eq_build, Guarded.build_eq_flat]
  case update =>
    intro updates
    cases given : updates.isGiven with
    | true =>
      rw [if_pos rfl, update_eq_build given, Guarded.build_eq_flat]
    | false =>
      rw [if_neg Bool.false_ne_true, update_of_not_given given]
  case delete => rw [delete_eq_build, Guarded.build_eq_flat]

end

/-- Whole groups may be empty, and the end of a statement as well. -/
theorem joined_in_stages_sparse :
    let groups := [[], ["DELETE FROM people", ""], [""], ["WHERE 1"], ["", "LIMIT 1"]]
    (∀ fragment ∈ groups.flatten, fragment ≠ "" → Clause.Neat fragment) ∧
      (groups.mapM Clause.joinTexts >>= Clause.joinTexts) =
        .ok "DELETE FROM people WHERE 1 LIMIT 1" ∧
      (∃ text, Clause.joinTexts groups.flatten = .ok text ∧ Clause.Neat text) ∧
      (delete (.str "people") Row.empty.toValue .null default).1 =
        .ok "DELETE FROM people WHERE 1" := by
  intro groups
  obtain ⟨stages, neat, built⟩ := joined_in_stages
  have of_words (words : List String) (spaceless : ∀ w ∈ words, w ≠ "" ∧ ' ' ∉ w.toList) :
      Clause.Neat (Clause.joined words) := Clause.neat_joined_words spaceless
  have head : Clause.Neat "DELETE FROM people" := of_words ["DELETE", "FROM", "people"] (by decide)
  have condition : Clause.Neat "WHERE 1" := of_words ["WHERE", "1"] (by decide)
  have window : Clause.Neat "LIMIT 1" := of_words ["LIMIT", "1"] (by decide)
  have all_neat : ∀ fragment ∈ groups.flatten, fragment ≠ "" → Clause.Neat fragment := by
    simp [groups, head, condition, window]
  refine ⟨all_neat, ?_, neat _ all_neat, ?_⟩
  · obtain ⟨text, staged, at_once⟩ := stages groups
    rw [staged, ← at_once]
    rfl
  · rw [(built (.str "people") Row.empty.toValue .null).2.2]
    rfl

end Statement

end SqlAssembly
