import SqlAssembly.Options.Coercion
import SqlAssembly.Proofs.Options.Intact
import SqlAssembly.Proofs.Row
import SqlAssembly.Proofs.Settings.Strictness
import SqlAssembly.Session.Heap

/-!
# Drafts of options

A *draft* is a mapping that names fields of a kind of record and has a fitting
value for each, in any order.  A draft is never refused (`Draft.ofEntries_eq`),
and what is written from the record is what is written from the values of the
draft themselves (`Draft.writes_made`): the texts of an ordering are the tokens
of the directions, in their order, and numbers of rows stay as they are.

The record may be put in cells before it is used.  That makes no difference to
what is written from it (`Placed`).
-/

namespace SqlAssembly

/-! ## Fitting values -/

/-- A text or a direction. -/
inductive Value.IsToken : Value → Prop
  | text (s : String) : IsToken (.str s)
  | direction (d : Direction) : IsToken (.direction d)

/-- The values that fit a field: none, or one of the kind that the field holds. -/
def OptionField.Fits : OptionField → Value → Prop
  | .sort, v => v = .null ∨ ∃ row : Row, v = row.toValue ∧ ∀ token ∈ row.values, token.IsToken
  | .limit, v => Options.IsCount v
  | .offset, v => Options.IsCount v
  | .projections, v =>
    v = .null ∨ ∃ (cell : Cell) (names : List String), v = .list cell (names.map .str)

/-! ## Orderings -/

namespace Entries

/-- Values under texts that are all different are a mapping as they are. -/
theorem ofList_ofBindings_of_nodup {α : Type} (value : α → Value) {pairs : Bindings α}
    (distinct : (pairs.map Prod.fst).Nodup) :
    ofList (ofBindings value pairs) = ofBindings value pairs := by
  rw [ofList_ofBindings, Bindings.foldl_put_of_nodup [] pairs distinct, List.nil_append]

theorem ofList_ofTexts_of_nodup {pairs : Bindings String}
    (distinct : (pairs.map Prod.fst).Nodup) : ofList (ofTexts pairs) = ofTexts pairs :=
  ofList_ofBindings_of_nodup .str distinct

end Entries

namespace Options

/-- Plain values under texts that are all different are a plain ordering. -/
theorem plainSort_ofBindings {α : Type} (value : α → Value) {pairs : Bindings α}
    (distinct : (pairs.map Prod.fst).Nodup)
    (plain : ∀ pair ∈ pairs, (value pair.2).plainWithin [] = .ok (value pair.2)) (cell : Cell) :
    plainSort (.mapping cell (Entries.ofBindings value pairs)) =
      .ok (Value.ofEntries (Entries.ofBindings value pairs)) := by
  rw [plainSort, plainEntries_ofBindings value plain]
  exact congrArg (Except.ok ∘ Value.ofEntries) (Entries.ofList_ofBindings_of_nodup value distinct)

theorem asText_of_isToken {v : Value} (token : v.IsToken) :
    ∃ s, asText v = .ok s ∧ Clause.directionToken v = .str s := by
  cases token with
  | text s => exact ⟨s, rfl, rfl⟩
  | direction d => exact ⟨d.token, rfl, rfl⟩

theorem textOf_of_isToken {v : Value} (token : v.IsToken) :
    .str (textOf v) = Clause.directionToken v := by
  obtain ⟨s, read, written⟩ := asText_of_isToken token
  rw [textOf, read, written]

variable [Machine]

theorem entryProblems_of_isToken (column : String) {v : Value} (token : v.IsToken) :
    entryProblems (.str column, v) = [] := by
  obtain ⟨s, read, _⟩ := asText_of_isToken token
  have key : textProblem? [keyPart (.str column), "[key]"] (.str column) = none := rfl
  have value : textProblem? [keyPart (.str column)] v = none := by rw [textProblem?, read]
  simp [entryProblems, key, value]

omit [Machine] in
/-- A mapping of columns to tokens is read as the mapping of these columns to their texts. -/
theorem textEntries_of_isToken {row : Row} (tokens : ∀ v ∈ row.values, v.IsToken) :
    textEntries row.entries =
      row.entries.map fun entry => (entry.1, Clause.directionToken entry.2) := by
  let texts : Bindings String := row.bindings.map fun binding => (binding.1, textOf binding.2)
  have distinct : (texts.map Prod.fst).Nodup := by
    simpa [texts, Function.comp_def] using row.distinct
  have pairs : row.entries.map (fun e => (textOf e.1, textOf e.2)) = texts :=
    List.map_map.trans rfl
  rw [textEntries_eq_ofTexts, pairs, Entries.ofList_ofTexts_of_nodup distinct]
  simp only [Entries.ofTexts, texts, Row.entries, List.map_map]
  refine List.map_congr_left fun binding among => ?_
  have token := tokens binding.2 (List.mem_map_of_mem among)
  exact congrArg (Prod.mk _) (textOf_of_isToken token)

end Options

namespace Clause

theorem directionToken_directionToken (v : Value) :
    directionToken (directionToken v) = directionToken v := by
  cases v <;> rfl

variable [Machine]

theorem orderedColumns_map_directionToken (strict : Bool) (entries : Entries) :
    orderedColumns strict (entries.map fun entry => (entry.1, directionToken entry.2)) =
      orderedColumns strict entries := by
  induction entries with
  | nil => rfl
  | cons entry rest ih =>
    simp only [List.map_cons, orderedColumns, directionToken_directionToken, ih]

/-- An ordering may be written with the tokens in the place of directions. -/
theorem ordering_map_directionToken (cell cell' : Cell) (entries : Entries) :
    ordering (.mapping cell' (entries.map fun entry => (entry.1, directionToken entry.2))) =
      ordering (.mapping cell entries) := by
  cases entries with
  | nil => rfl
  | cons entry rest =>
    funext desk
    rw [ordering_mapping cell (List.cons_ne_nil _ _), ordering_mapping cell' (by simp),
      orderedColumns_map_directionToken]

end Clause

/-! ## Cells -/

/-- A collection in a cell; other values stay as they are. -/
def Value.inCell (cell : Cell) : Value → Value
  | .list _ items => .list cell items
  | .mapping _ entries => .mapping cell entries
  | v => v

namespace Options

/-- A record with the same fields, in whatever cells its ordering and its projections live. -/
structure Placed (made o : Options) : Prop where
  kind : o.kind = made.kind
  sort : ∃ cell, o.sort = made.sort.inCell cell
  limit : o.limit = made.limit
  offset : o.offset = made.offset
  projections : ∃ cell, o.projections = made.projections.inCell cell

theorem placed_self {o : Options} : Placed o o := by
  have same (v : Value) : ∃ cell, v = v.inCell cell := by
    cases v with
    | list cell items | mapping cell entries => exact ⟨cell, rfl⟩
    | _ => exact ⟨.none, rfl⟩
  exact ⟨rfl, same _, rfl, rfl, same _⟩

/-! ### Putting records on a heap -/

theorem placeEntries_ofTexts (heap : Heap) (pairs : Bindings String) :
    (heap.placeEntries (Entries.ofTexts pairs)).1 = Entries.ofTexts pairs := by
  induction pairs with
  | nil => rfl
  | cons pair rest ih => exact congrArg (List.cons _) ih

theorem placeItems_map_str (heap : Heap) (names : List String) :
    (heap.placeItems (names.map .str)).1 = names.map .str := by
  induction names with
  | nil => rfl
  | cons name rest ih => exact congrArg (List.cons _) ih

theorem IsCount.place_eq {v : Value} (count : IsCount v) (heap : Heap) : (heap.place v).1 = v := by
  rcases count with rfl | ⟨n, rfl⟩ <;> rfl

theorem Intact.place_sort {made : Options} (intact : made.Intact) (heap : Heap) :
    ∃ cell, (heap.place made.sort).1 = made.sort.inCell cell := by
  rcases intact.sort with empty | ⟨cell, pairs, texts⟩
  · exact ⟨none, by rw [empty]; rfl⟩
  · rw [texts]
    cases cell with
    | some cell => exact ⟨some cell, rfl⟩
    | none => exact ⟨_, congrArg (Value.mapping _) (placeEntries_ofTexts heap pairs)⟩

theorem Intact.place_projections {made : Options} (intact : made.Intact) (heap : Heap) :
    ∃ cell, (heap.place made.projections).1 = made.projections.inCell cell := by
  rcases intact.projections with empty | ⟨_, cell, names, texts⟩
  · exact ⟨none, by rw [empty]; rfl⟩
  · rw [texts]
    cases cell with
    | some cell => exact ⟨some cell, rfl⟩
    | none => exact ⟨_, congrArg (Value.list _) (placeItems_map_str heap names)⟩

/-- An intact record put on a heap is the same record in cells. -/
theorem placed_place {made : Options} (intact : made.Intact) (heap : Heap) :
    ∃ o, Placed made o ∧ (heap.place made.toValue).1 = o.toValue := by
  -- A record that has a cell stays where it is; one that has none is put there with its parts.
  cases cell : made.cell with
  | some cell =>
    refine ⟨made, placed_self, ?_⟩
    rw [toValue, cell]
    rfl
  | none =>
    rw [toValue, cell]
    refine ⟨⟨_, made.kind, made.given, _, _, _, _⟩, ?_, rfl⟩
    exact ⟨rfl, intact.place_sort _, intact.limit.place_eq _, intact.offset.place_eq _,
      intact.place_projections _⟩

variable [Machine]

/-- A record from which the same is written as from values for its fields. -/
structure Writes (o : Options) (sort limit offset projections : Value) : Prop where
  ordering : Clause.ordering o.sort = Clause.ordering sort
  limit : o.limit = limit
  offset : o.offset = offset
  projection : Clause.projection o.projections = Clause.projection projections

/-! ## Drafts -/

/-- A mapping that names fields of a kind and has a fitting value for each. -/
structure Draft (kind : OptionsKind) where
  /-- The values under the names of fields, in any order. -/
  row : Row
  /-- Every name is that of a field. -/
  named : ∀ name ∈ row.columns, (kind.field? name).isSome = true
  /-- Every value fits its field. -/
  fits : ∀ f v, row.bindings.get? (OptionField.name f) = some v → f.Fits v

namespace Draft

variable {kind : OptionsKind}

/-- The value for a field; nothing if the draft does not name it. -/
def field (draft : Draft kind) (f : OptionField) : Value :=
  (draft.row.bindings.get? f.name).getD .null

omit [Machine] in
theorem fits_field (draft : Draft kind) (f : OptionField) : f.Fits (draft.field f) := by
  unfold field
  cases found : draft.row.bindings.get? f.name with
  | none => cases f <;> exact Or.inl rfl
  | some v => exact draft.fits f v found

omit [Machine] in
theorem getText?_row (draft : Draft kind) (name : String) :
    draft.row.entries.getText? name = draft.row.bindings.get? name := draft.row.get?_entries name

omit [Machine] in
/-- A field that the kind has not is not named. -/
theorem field_of_not_mem (draft : Draft kind) {f : OptionField} (lacking : f ∉ kind.fields) :
    draft.field f = .null := by
  unfold field
  cases found : draft.row.bindings.get? f.name with
  | none => rfl
  | some v =>
    have named := draft.named f.name
      ((draft.row.isSome_get?_iff f.name).1 (by rw [found, Option.isSome_some]))
    -- Names are found field by field, and no two fields share one.
    have has : (kind.field? f.name).isSome = true → f ∈ kind.fields := by
      cases kind <;> cases f <;> decide
    exact absurd (has named) lacking

end Draft

/-! ## Reading drafts -/

theorem readField_null (f : OptionField) : readField f .null = .ok .null := by
  cases f <;> rfl

theorem readSort_of_fits {v : Value} (fits : OptionField.sort.Fits v) :
    ∃ w, readField .sort v = .ok w ∧ ∀ cell, Clause.ordering (w.inCell cell) = Clause.ordering v := by
  rcases fits with rfl | ⟨row, rfl, tokens⟩
  · exact ⟨.null, rfl, fun _ => rfl⟩
  · have no_problems : row.entries.flatMap entryProblems = [] := by
      rw [List.flatMap_eq_nil_iff]
      intro entry among
      obtain ⟨binding, bound, rfl⟩ := List.mem_map.1 among
      exact entryProblems_of_isToken _ (tokens _ (List.mem_map_of_mem bound))
    refine ⟨Value.ofEntries (textEntries row.entries), ?_, fun cell => ?_⟩
    · simp [readField, readSort, Row.toValue, no_problems]
    · rw [textEntries_of_isToken tokens]
      exact Clause.ordering_map_directionToken row.cell cell row.entries

omit [Machine] in
theorem readCount_of_isCount {v : Value} (count : IsCount v) : readCount v = .ok v := by
  rcases count with rfl | ⟨n, rfl⟩
  · rfl
  · simp [readCount]

omit [Machine] in
theorem readProjections_map_str (cell : Cell) (names : List String) :
    readProjections (.list cell (names.map .str)) = .ok (Value.ofItems (names.map .str)) := by
  have no_problems (position : Nat) : itemProblems position (names.map .str) = [] := by
    induction names generalizing position with
    | nil => rfl
    | cons name rest ih => exact ih (position + 1)
  simp [readProjections, Value.kind, listItems?, Value.items?, no_problems, Function.comp_def,
    textOf, asText, Value.text?]

theorem readProjections_of_fits {v : Value} (fits : OptionField.projections.Fits v) :
    ∃ w, readField .projections v = .ok w ∧
      ∀ cell, Clause.projection (w.inCell cell) = Clause.projection v := by
  rcases fits with rfl | ⟨cell, names, rfl⟩
  · exact ⟨.null, rfl, fun _ => rfl⟩
  · exact ⟨Value.ofItems (names.map .str), readProjections_map_str cell names, fun cell => rfl⟩

namespace Draft

variable {kind : OptionsKind}

theorem readEntry_eq (draft : Draft kind) {f : OptionField} {w : Value}
    (read : readField f (draft.field f) = .ok w) : readEntry draft.row.entries f = .ok w := by
  unfold readEntry
  rw [getText?_row]
  unfold field at read
  cases found : draft.row.bindings.get? f.name with
  | none =>
    rw [found, Option.getD_none, readField_null] at read
    exact read
  | some v =>
    rw [found, Option.getD_some] at read
    simp only [read]

theorem recordValue_eq (draft : Draft kind) {f : OptionField} {w : Value}
    (read : readField f (draft.field f) = .ok w) : recordValue kind draft.row.entries f = w := by
  unfold recordValue
  split
  · rw [fieldValue, draft.readEntry_eq read]
  · next lacking =>
    rw [draft.field_of_not_mem (by simpa using lacking), readField_null] at read
    cases read
    rfl

theorem readField_isOk (draft : Draft kind) (f : OptionField) :
    ∃ w, readField f (draft.field f) = .ok w := by
  have fits := draft.fits_field f
  cases f with
  | sort => exact (readSort_of_fits fits).imp fun _ read => read.1
  | limit | offset => exact ⟨_, readCount_of_isCount fits⟩
  | projections => exact (readProjections_of_fits fits).imp fun _ read => read.1

/-- The record that a draft describes. -/
def made (draft : Draft kind) : Options := record kind draft.row.entries

/-- A draft is not refused. -/
theorem ofEntries_eq (draft : Draft kind) :
    ofEntries kind draft.row.entries = .ok draft.made := by
  have no_field_problems : kind.fields.flatMap (fieldProblems draft.row.entries) = [] := by
    rw [List.flatMap_eq_nil_iff]
    intro f _
    obtain ⟨w, read⟩ := draft.readField_isOk f
    rw [fieldProblems, draft.readEntry_eq read]
  have no_key_problems : draft.row.entries.filterMap (keyProblem? kind) = [] := by
    rw [List.filterMap_eq_nil_iff]
    intro entry among
    obtain ⟨binding, bound, rfl⟩ := List.mem_map.1 among
    obtain ⟨f, found⟩ := Option.isSome_iff_exists.1
      (draft.named binding.1 (List.mem_map_of_mem bound))
    simp [keyProblem?, Value.text?, found]
  rw [ofEntries, problems, no_field_problems, no_key_problems]
  rfl

/-- From the record that a draft describes, the same is written as from the draft. -/
theorem writes_made (draft : Draft kind) {o : Options} (placed : Placed draft.made o) :
    o.Writes (draft.field .sort) (draft.field .limit) (draft.field .offset)
      (draft.field .projections) := by
  obtain ⟨sort, sort_read, ordering⟩ := readSort_of_fits (draft.fits_field .sort)
  obtain ⟨projections, projections_read, projection⟩ :=
    readProjections_of_fits (draft.fits_field .projections)
  refine ⟨?_, ?_, ?_, ?_⟩
  · obtain ⟨cell, same⟩ := placed.sort
    rw [same, made, record, draft.recordValue_eq sort_read]
    exact ordering cell
  · exact placed.limit.trans (draft.recordValue_eq (readCount_of_isCount (draft.fits_field .limit)))
  · exact placed.offset.trans
      (draft.recordValue_eq (readCount_of_isCount (draft.fits_field .offset)))
  · obtain ⟨cell, same⟩ := placed.projections
    rw [same, made, record, draft.recordValue_eq projections_read]
    exact projection cell

/-- The values that give a draft: its mapping, and the record that it describes in any cells. -/
def IsGivenBy (draft : Draft kind) (options : Value) : Prop :=
  options = draft.row.toValue ∨ ∃ o, Placed draft.made o ∧ options = o.toValue

/-- Wherever the record that a draft describes is put, it gives the draft. -/
theorem isGivenBy_place (draft : Draft kind) (heap : Heap) :
    draft.IsGivenBy (heap.place draft.made.toValue).1 := by
  obtain ⟨o, placed, same⟩ := placed_place (intact_of_ofEntries draft.ofEntries_eq) heap
  exact Or.inr ⟨o, placed, same⟩

/-- A draft is taken for its record. -/
theorem coerce_eq {draft : Draft kind} {options : Value} (given : draft.IsGivenBy options)
    (statement : String) :
    ∃ o, Placed draft.made o ∧ coerce options kind statement = pure o := by
  rcases given with rfl | ⟨o, placed, rfl⟩
  · refine ⟨draft.made, placed_self, ?_⟩
    funext desk
    refine coerce_eq_ok_iff.2 ⟨?_, rfl⟩
    show (ofArgument kind statement draft.row.toValue).toOption = _
    rw [Row.toValue, ofArgument_mapping, draft.ofEntries_eq]
    rfl
  · refine ⟨o, placed, ?_⟩
    obtain rfl : o.kind = kind := placed.kind
    exact coerce_own o statement

end Draft

end Options

end SqlAssembly
