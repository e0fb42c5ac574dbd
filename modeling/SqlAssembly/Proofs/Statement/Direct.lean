import SqlAssembly.Proofs.Clause.Joining
import SqlAssembly.Proofs.Options.Draft
import SqlAssembly.Proofs.Statement.Guarded

/-!
# Statements made directly

A caller may make a statement of its clauses: the head, the condition, and the
end of the statement, joined (`Statement.direct`).  No options record is made
then, and nothing is checked before it is written.

Statements with options do the same as long as the options are a draft, or the
record that a draft describes (`Statement.built_directly`).  They only record,
in the end, that the statement was built.
-/

namespace SqlAssembly

namespace Clause

/-- Texts are joined by their own joining. -/
theorem joinedValue_map_str (fragments : List String) :
    joinedValue (Value.ofItems (fragments.map .str)) = .ok (joined fragments) := by
  have kept : (fragments.map Value.str).filter Value.isGiven =
      (fragments.filter fun fragment => !fragment.isEmpty).map .str := by
    rw [List.filter_map]
    rfl
  show Value.joinItems " " ((fragments.map Value.str).filter Value.isGiven) = _
  rw [kept, Value.joinItems_map_str]
  rfl

end Clause

namespace Statement

section

variable [Machine]

/-- A head, a condition and the end of a statement, joined. -/
def direct (head : Except Fault String) (criteria sort limit offset : Value) : Build String := do
  let head ← liftM head
  let condition ← liftM (Clause.condition criteria)
  let suffix ← Clause.suffix sort limit offset
  liftM (Clause.joinedValue (Value.ofItems [.str head, .str condition, .str suffix]))

/-- A statement with the event that it was built. -/
def recorded (work : Build String) (event : Event) : Build String := do
  let text ← work
  Build.emit event
  return text

theorem suffix_congr {sort sort' : Value} (same : Clause.ordering sort = Clause.ordering sort')
    (limit offset : Value) :
    Clause.suffix sort limit offset = Clause.suffix sort' limit offset := by
  rw [Clause.suffix, Clause.suffix, same]

namespace Guarded

variable {g : Guarded} {o : Options} {sort limit offset projections : Value} {n : Nat}

/-- With its record, a statement is made of its clauses. -/
theorem buildWith_eq (writes : o.Writes sort limit offset projections) (size : g.size = .ok n) :
    g.buildWith o = recorded (direct (g.head o) g.criteria sort limit offset) (g.event n) := by
  have joined (first second third : String) :
      Clause.joinedValue (Value.ofItems [.str first, .str second, .str third]) =
        .ok (Clause.joined [first, second, third]) :=
    Clause.joinedValue_map_str [first, second, third]
  have suffix := suffix_congr writes.ordering limit offset
  simp only [buildWith, recorded, direct, writes.limit, writes.offset, suffix, size, joined,
    Build.bind_assoc]
  rfl

/-- A statement whose options are a draft is made of its clauses. -/
theorem build_eq_recorded {g : Guarded} {draft : Options.Draft g.kind} {head : Except Fault String}
    (given : draft.IsGivenBy g.options) (size : g.size = .ok n)
    (written : ∀ o : Options,
      Clause.projection o.projections = Clause.projection (draft.field .projections) →
        g.head o = head) :
    g.build = recorded (direct head g.criteria (draft.field .sort) (draft.field .limit)
      (draft.field .offset)) (g.event n) := by
  obtain ⟨o, placed, taken⟩ := Options.Draft.coerce_eq given g.name
  have writes := draft.writes_made placed
  have with_record : g.build = g.buildWith o := by
    rw [build, taken]
    rfl
  rw [with_record, buildWith_eq writes size, written o writes.projection]

end Guarded

/-- A find, update or delete whose options are a draft is made of its clauses, and then recorded as
built.  So it is the same text, or the same refusal, after the same warnings.  A draft is never
refused as such, and the record that it describes gives the same. -/
theorem built_directly (table : String) (cell : Cell) (criteria : Entries) :
    (∀ (draft : Options.Draft .find) (options : Value), draft.IsGivenBy options →
      find (.str table) (.mapping cell criteria) options =
        recorded
          (direct ((Clause.projection (draft.field .projections)).map fun projection =>
              "SELECT " ++ projection ++ " FROM " ++ table)
            (.mapping cell criteria) (draft.field .sort) (draft.field .limit)
            (draft.field .offset))
          (built .select "find" (.str table) (placeholderCount criteria.length))) ∧
      (∀ (draft : Options.Draft .orderLimit) (options : Value), draft.IsGivenBy options →
        ∀ (place : Cell) (updates : Entries), updates ≠ [] →
          update (.str table) (.mapping cell criteria) (.mapping place updates) options =
            recorded
              (direct ((Clause.assignments (.mapping place updates)).map fun assignments =>
                  "UPDATE " ++ table ++ " SET " ++ assignments)
                (.mapping cell criteria) (draft.field .sort) (draft.field .limit)
                (draft.field .offset))
              (built .update "update" (.str table)
                (placeholderCount (updates.length + criteria.length)))) ∧
      (∀ (draft : Options.Draft .orderLimit) (options : Value), draft.IsGivenBy options →
        delete (.str table) (.mapping cell criteria) options =
          recorded
            (direct (.ok ("DELETE FROM " ++ table)) (.mapping cell criteria) (draft.field .sort)
              (draft.field .limit) (draft.field .offset))
            (built .delete "delete" (.str table) (placeholderCount criteria.length))) ∧
      ∀ (kind : OptionsKind) (draft : Options.Draft kind),
        Options.ofEntries kind draft.row.entries = .ok draft.made ∧
          ∀ heap : Heap, draft.IsGivenBy (heap.place draft.made.toValue).1 := by
  refine ⟨?find, ?update, ?delete, fun kind draft =>
    ⟨draft.ofEntries_eq, draft.isGivenBy_place⟩⟩
  case find =>
    intro draft options given
    have head {o : Options}
        (same : Clause.projection o.projections = Clause.projection (draft.field .projections)) :
        (guardedFind (.str table) (.mapping cell criteria) options).head o =
          (Clause.projection (draft.field .projections)).map fun projection =>
            "SELECT " ++ projection ++ " FROM " ++ table := by
      simp only [guardedFind, same, Value.written_str]
      rfl
    rw [find_eq_build]
    exact Guarded.build_eq_recorded (g := guardedFind (.str table) (.mapping cell criteria) options)
      given (Value.size_mapping cell criteria) fun o same => head same
  case update =>
    intro draft options given place updates some_updates
    rw [update_eq_build (by simpa using some_updates)]
    exact Guarded.build_eq_recorded
      (g := guardedUpdate (.str table) (.mapping cell criteria) (.mapping place updates) options)
      given (size_guardedUpdate (.str table) options cell place criteria updates) fun o same => by
        simp only [guardedUpdate, Value.written_str]
        rfl
  case delete =>
    intro draft options given
    rw [delete_eq_build]
    exact Guarded.build_eq_recorded
      (g := guardedDelete (.str table) (.mapping cell criteria) options)
      given (Value.size_mapping cell criteria) fun o same => by
        simp only [guardedDelete, Value.written_str]
        rfl

end

/-- A draft with an ordering by age, the youngest last, and at most ten rows. -/
def eldestFirst (kind : OptionsKind) : Options.Draft kind where
  row := ⟨none, [("limit", .int 10), ("sort", Value.ofEntries [(.str "age", .direction .desc)])],
    by decide⟩
  named := by cases kind <;> decide
  fits := by
    intro f v found
    cases f with
    | sort =>
      cases found
      exact Or.inr ⟨⟨none, [("age", .direction .desc)], by decide⟩, rfl,
        List.forall_mem_singleton.2 (.direction .desc)⟩
    | limit =>
      cases found
      exact Or.inr ⟨10, rfl⟩
    | offset | projections => cases found

theorem built_directly_eldestFirst :
    let options := (eldestFirst .orderLimit).row.toValue
    let updates : Entries := [(.str "group", .int 1)]
    (eldestFirst .orderLimit).IsGivenBy options ∧ updates ≠ [] ∧
      update (.str "people") Row.empty.toValue (Value.ofEntries updates) options =
        recorded
          (direct (.ok "UPDATE people SET group=?") Row.empty.toValue
            (Value.ofEntries [(.str "age", .direction .desc)]) (.int 10) .null)
          (built .update "update" (.str "people") (placeholderCount 1)) ∧
      (update (.str "people") Row.empty.toValue (Value.ofEntries updates) options default).1 =
        .ok "UPDATE people SET group=? WHERE 1 ORDER BY age DESC LIMIT 10" := by
  intro options updates
  have given : (eldestFirst .orderLimit).IsGivenBy options := Or.inl rfl
  have some_updates : updates ≠ [] := List.cons_ne_nil _ _
  have direct := (built_directly "people" none []).2.1 _ options given none updates some_updates
  refine ⟨given, some_updates, direct, ?_⟩
  exact (congrArg (fun work => (work default).1) direct).trans rfl

end Statement

end SqlAssembly
