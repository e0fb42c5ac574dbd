import Mathlib.Data.List.Nodup
import SqlAssembly.Proofs.Options.Draft
import SqlAssembly.Proofs.Options.Flaws

/-!
# Records of the other kind

A record is *as made* if nothing in it was changed since a mapping described it;
it may have been put in cells.  What was read for a field of such a record is
read again as it is (`Options.readField_of_read`), so that a mapping of what it
was given has no flaws but the names of fields that the other kind lacks
(`Options.AsMade.flaws_copied`).

So a record is taken for one of the other kind without a loss, unless it names
columns to return and the other kind has none; then it is refused
(`Session.coerce_record`).
-/

namespace SqlAssembly

namespace Value

@[simp] theorem inCell_inCell (cell cell' : Cell) (v : Value) :
    (v.inCell cell).inCell cell' = v.inCell cell' := by
  cases v <;> rfl

@[simp] theorem kind_inCell (cell : Cell) (v : Value) : (v.inCell cell).kind = v.kind := by
  cases v <;> rfl

theorem kind_eq_null_iff {v : Value} : v.kind = .null ↔ v = .null := by
  cases v <;> simp [kind]

theorem eq_mapping_of_inCell {v : Value} {entries : Entries}
    (same : v.inCell none = ofEntries entries) : ∃ cell, v = .mapping cell entries := by
  cases v with
  | mapping cell others =>
    cases same
    exact ⟨cell, rfl⟩
  | _ => cases same

theorem eq_list_of_inCell {v : Value} {items : List Value}
    (same : v.inCell none = ofItems items) : ∃ cell, v = .list cell items := by
  cases v with
  | list cell others =>
    cases same
    exact ⟨cell, rfl⟩
  | _ => cases same

end Value

theorem OptionField.name_injective : Function.Injective OptionField.name := by
  intro f g same
  cases f <;> cases g <;> first | rfl | exact absurd same (by decide)

namespace Options

/-! ## Reading what was read -/

theorem IsCount.inCell_eq {v : Value} (count : IsCount v) (cell : Cell) : v.inCell cell = v := by
  rcases count with rfl | ⟨n, rfl⟩ <;> rfl

theorem textEntries_ofTexts {pairs : Bindings String} (distinct : (pairs.map Prod.fst).Nodup) :
    textEntries (Entries.ofTexts pairs) = Entries.ofTexts pairs := by
  have same : (Entries.ofTexts pairs).map (fun e => (textOf e.1, textOf e.2)) = pairs := by
    rw [Entries.ofTexts, List.map_map]
    exact List.map_id pairs
  rw [textEntries_eq_ofTexts, same, Entries.ofList_ofTexts_of_nodup distinct]

variable [Machine]

theorem readSort_ofTexts {pairs : Bindings String} (distinct : (pairs.map Prod.fst).Nodup)
    (cell : Cell) :
    readSort (.mapping cell (Entries.ofTexts pairs)) =
      .ok (Value.ofEntries (Entries.ofTexts pairs)) := by
  have no_problems : (Entries.ofTexts pairs).flatMap entryProblems = [] := by
    rw [List.flatMap_eq_nil_iff]
    intro entry among
    obtain ⟨pair, _, rfl⟩ := List.mem_map.1 among
    rfl
  rw [readSort, no_problems, textEntries_ofTexts distinct]

/-- What was read for a field is in no cell, and from any cell it is read as it is. -/
theorem readField_of_read {f : OptionField} {v w : Value} (read : readField f v = .ok w) :
    w.inCell none = w ∧ ∀ cell, readField f (w.inCell cell) = .ok w := by
  cases f with
  | sort =>
    rcases readSort_eq_texts read with rfl | ⟨pairs, distinct, rfl⟩
    · exact ⟨rfl, fun cell => rfl⟩
    · exact ⟨rfl, fun cell => readSort_ofTexts distinct cell⟩
  | limit | offset =>
    have count := readCount_eq_ok read
    refine ⟨count.inCell_eq none, fun cell => ?_⟩
    rw [count.inCell_eq cell]
    exact readCount_of_isCount count
  | projections =>
    rcases readProjections_eq_texts read with rfl | ⟨names, rfl⟩
    · exact ⟨rfl, fun cell => rfl⟩
    · exact ⟨rfl, fun cell => readProjections_map_str cell names⟩

/-! ## Records as made -/

/-- A record with the same fields, of which the same were given, in whatever cells. -/
structure Stored (made o : Options) : Prop extends Placed made o where
  given : o.given = made.given

/-- A record that a mapping describes, wherever it was put. -/
def AsMade (o : Options) : Prop :=
  ∃ entries made, ofEntries o.kind entries = .ok made ∧ Stored made o

/-- A field as a copy, which is in no cell. -/
def copy (o : Options) (f : OptionField) : Value := (o.field f).inCell none

omit [Machine] in
theorem Placed.copy_eq {made o : Options} (placed : Placed made o) (f : OptionField) :
    o.copy f = made.copy f := by
  cases f with
  | sort =>
    obtain ⟨cell, same⟩ := placed.sort
    show o.sort.inCell none = made.sort.inCell none
    rw [same, Value.inCell_inCell]
  | limit => exact congrArg (Value.inCell none) placed.limit
  | offset => exact congrArg (Value.inCell none) placed.offset
  | projections =>
    obtain ⟨cell, same⟩ := placed.projections
    show o.projections.inCell none = made.projections.inCell none
    rw [same, Value.inCell_inCell]

omit [Machine] in
theorem kind_copy (o : Options) (f : OptionField) : (o.copy f).kind = (o.field f).kind :=
  Value.kind_inCell none _

omit [Machine] in
theorem copy_eq_null_iff {o : Options} {f : OptionField} :
    o.copy f = .null ↔ o.field f = .null := by
  rw [← Value.kind_eq_null_iff, ← Value.kind_eq_null_iff, kind_copy]

/-- The record that a mapping describes is as made wherever it is put. -/
theorem asMade_place {kind : OptionsKind} {entries : Entries} {made : Options}
    (described : ofEntries kind entries = .ok made) (heap : Heap) :
    ∃ o : Options, (heap.place made.toValue).1 = o.toValue ∧ o.AsMade := by
  obtain ⟨o, placed, same⟩ := placed_place (intact_of_ofEntries described) heap
  have given : o.given = made.given := by
    unfold toValue at same
    cases cell : made.cell with
    | some cell =>
      rw [cell] at same
      injection same with _ _ given
      exact given.symm
    | none =>
      rw [cell] at same
      injection same with _ _ given
      exact given.symm
  refine ⟨o, same, entries, made, ?_, placed, given⟩
  have kind_made : made.kind = kind := congrArg Options.kind (eq_record_of_ofEntries described)
  rw [placed.kind, kind_made]
  exact described

/-- A field of a record that a mapping describes is empty, or it was given and read. -/
theorem record_field_eq_null_or_read (kind : OptionsKind) (entries : Entries) (f : OptionField) :
    (record kind entries).field f = .null ∨ f ∈ (record kind entries).given ∧
      ∃ v, readField f v = .ok ((record kind entries).field f) := by
  have value : (record kind entries).field f = recordValue kind entries f := by cases f <;> rfl
  rw [value]
  rcases recordValue_eq_null_or_read kind entries f with empty | ⟨among, read⟩
  · exact Or.inl empty
  · cases found : entries.getText? f.name with
    | none =>
      refine Or.inl ?_
      simp [recordValue, fieldValue, readEntry, found]
    | some v =>
      exact Or.inr ⟨List.mem_filter.2 ⟨among, by rw [found, Option.isSome_some]⟩, read⟩

/-- The fields that were given and are not empty, in order. -/
def filled (o : Options) : List OptionField :=
  o.kind.fields.filter fun f => o.given.contains f && (o.field f).kind != .null

/-- What a record was given, without what is empty, as a row of copies. -/
def copied (o : Options) : Row where
  cell := none
  bindings := o.filled.map fun f => (f.name, o.copy f)
  distinct := by
    rw [List.map_map]
    exact (o.kind.fields_nodup.filter _).map OptionField.name_injective

omit [Machine] in
theorem get?_copied (o : Options) (f : OptionField) :
    o.copied.bindings.get? f.name = if f ∈ o.filled then some (o.copy f) else none := by
  split
  · next among => exact Row.get?_of_mem (List.mem_map_of_mem among)
  · next lacking =>
    rw [← Option.not_isSome_iff_eq_none, Row.isSome_get?_iff]
    intro among
    obtain ⟨binding, bound, name⟩ := List.mem_map.1 among
    obtain ⟨g, filled, rfl⟩ := List.mem_map.1 bound
    obtain rfl : g = f := OptionField.name_injective name
    exact lacking filled

omit [Machine] in
theorem getText?_copied (o : Options) (f : OptionField) :
    o.copied.entries.getText? f.name = if f ∈ o.filled then some (o.copy f) else none :=
  (o.copied.get?_entries f.name).trans (get?_copied o f)

namespace AsMade

variable {o : Options} (asMade : o.AsMade)

include asMade

theorem given_eq : ∃ p, o.given = o.kind.fields.filter p := by
  obtain ⟨entries, made, described, stored⟩ := asMade
  refine ⟨fun f => (entries.getText? f.name).isSome, ?_⟩
  rw [stored.given, eq_record_of_ofEntries described]
  rfl

/-- A field that is not empty was given, and its copy was read. -/
theorem read_of_ne_null {f : OptionField} (full : o.field f ≠ .null) :
    f ∈ o.given ∧ ∃ v, readField f v = .ok (o.copy f) := by
  obtain ⟨entries, made, described, stored⟩ := asMade
  obtain rfl := eq_record_of_ofEntries described
  rcases record_field_eq_null_or_read o.kind entries f with empty | ⟨among, v, read⟩
  · rw [← copy_eq_null_iff, ← stored.toPlaced.copy_eq f] at empty
    exact absurd (copy_eq_null_iff.1 empty) full
  · rw [stored.given, stored.toPlaced.copy_eq f, copy, (readField_of_read read).1]
    exact ⟨among, v, read⟩

theorem readField_copy (f : OptionField) : readField f (o.copy f) = .ok (o.copy f) := by
  by_cases empty : o.field f = .null
  · rw [copy_eq_null_iff.2 empty]
    exact readField_null f
  · obtain ⟨_, v, read⟩ := asMade.read_of_ne_null empty
    have again := (readField_of_read read).2 none
    rwa [copy, Value.inCell_inCell] at again

theorem filled_eq : o.filled = o.kind.fields.filter fun f => (o.field f).kind != .null := by
  refine List.filter_congr fun f _ => ?_
  by_cases empty : o.field f = .null
  · rw [empty]
    exact Bool.and_false _
  · rw [List.contains_iff_mem.2 (asMade.read_of_ne_null empty).1, Bool.true_and]

/-- What is filled is what was given and is not empty. -/
theorem filled_eq_given : o.filled = o.given.filter fun f => (o.field f).kind != .null := by
  obtain ⟨p, given⟩ := asMade.given_eq
  rw [filled, given, List.filter_filter]
  refine List.filter_congr fun f among => ?_
  have same : (o.kind.fields.filter p).contains f = p f := by
    rw [Bool.eq_iff_iff, List.contains_iff_mem, List.mem_filter]
    exact and_iff_right among
  rw [same, Bool.and_comm]

theorem mem_filled_iff {f : OptionField} : f ∈ o.filled ↔ o.field f ≠ .null := by
  rw [asMade.filled_eq_given, List.mem_filter, bne_iff_ne, Ne, Value.kind_eq_null_iff]
  exact and_iff_right_of_imp fun full => (asMade.read_of_ne_null full).1

/-! ### Plain forms -/

theorem plainSort_eq : plainSort o.sort = .ok (o.copy .sort) := by
  by_cases empty : o.field .sort = .null
  · have none_given : o.sort = .null := empty
    rw [copy_eq_null_iff.2 empty, none_given]
    rfl
  · obtain ⟨_, v, read⟩ := asMade.read_of_ne_null empty
    obtain ⟨pairs, distinct, texts⟩ :=
      (readSort_eq_texts read).resolve_left (mt copy_eq_null_iff.1 empty)
    obtain ⟨cell, sort⟩ := Value.eq_mapping_of_inCell (v := o.sort) texts
    rw [texts, sort]
    exact plainSort_ofBindings .str distinct (fun _ _ => rfl) cell

theorem plainProjections_eq : plainProjections o.projections = .ok (o.copy .projections) := by
  by_cases empty : o.field .projections = .null
  · have none_given : o.projections = .null := empty
    rw [copy_eq_null_iff.2 empty, none_given]
    rfl
  · obtain ⟨_, v, read⟩ := asMade.read_of_ne_null empty
    obtain ⟨names, texts⟩ :=
      (readProjections_eq_texts read).resolve_left (mt copy_eq_null_iff.1 empty)
    obtain ⟨cell, list⟩ := Value.eq_list_of_inCell (v := o.projections) texts
    rw [texts, list, plainProjections, plainItems_map_str]
    rfl

theorem counts : IsCount o.limit ∧ IsCount o.offset := by
  obtain ⟨entries, made, described, stored⟩ := asMade
  have wellMade := wellMade_of_ofEntries described
  rw [stored.limit, stored.offset]
  exact ⟨wellMade.limit, wellMade.offset⟩

theorem field_copies (f : OptionField) :
    Value.field (o.copy .sort) o.limit o.offset (o.copy .projections) f = o.copy f := by
  cases f with
  | sort | projections => rfl
  | limit => exact (asMade.counts.1.inCell_eq none).symm
  | offset => exact (asMade.counts.2.inCell_eq none).symm

/-- The plain form of a record as made is the mapping of copies of what it was given. -/
theorem plain_toValue : o.toValue.plain = .ok o.copied.toValue := by
  have entry : Value.fieldEntry (o.copy .sort) o.limit o.offset (o.copy .projections) =
      fun f => (.str f.name, o.copy f) :=
    funext fun f => congrArg (Prod.mk _) (asMade.field_copies f)
  have given : Value.givenEntries o.kind o.given (o.copy .sort) o.limit o.offset
      (o.copy .projections) = o.copied.entries := by
    rw [Value.givenEntries, entry, Row.entries, copied, List.map_map, filled]
    simp only [asMade.field_copies, kind_copy]
    rfl
  rw [plain_toValue_eq_bind, asMade.plainSort_eq, asMade.plainProjections_eq]
  exact congrArg (Except.ok ∘ Value.ofEntries) given

/-! ### Copies as options -/

theorem fieldFlaws_copy (f : OptionField) : fieldFlaws f (o.copy f) = [] := by
  have problems := problemsOf_readField f (o.copy f)
  rw [asMade.readField_copy f] at problems
  exact List.map_eq_nil_iff.1 problems.symm

/-- The only flaws of the copies are fields that the needed kind has not. -/
theorem flaws_copied (kind : OptionsKind) :
    flaws kind o.copied = (o.filled.filter fun f => !kind.fields.contains f).map fun f =>
      .unknown f.name (o.copy f) := by
  have no_field_flaws : ∀ f v, o.copied.bindings.get? (OptionField.name f) = some v →
      fieldFlaws f v = [] := by
    intro f v found
    rw [get?_copied] at found
    split at found
    · cases found
      exact asMade.fieldFlaws_copy f
    · cases found
  have key (f : OptionField) : keyFlaw? kind (f.name, o.copy f) =
      if !kind.fields.contains f then some (.unknown f.name (o.copy f)) else none := by
    have known : f.name ∈ kind.fields.map OptionField.name ↔ kind.fields.contains f = true :=
      (List.mem_map_of_injective OptionField.name_injective).trans List.contains_iff_mem.symm
    simp only [keyFlaw?, known]
    cases kind.fields.contains f <;> rfl
  rw [flaws_of_fields no_field_flaws, copied, List.filterMap_map, ← List.filterMap_eq_map,
    List.filterMap_filter]
  exact congrArg (List.filterMap · o.filled) (funext key)

end AsMade

/-! ## Conversions -/

/-- A record of a kind that holds the same as another record, in copies. -/
structure Converts (o : Options) (kind : OptionsKind) (other : Options) : Prop where
  kind : other.kind = kind
  sort : other.sort = o.sort.inCell none
  limit : other.limit = o.limit
  offset : other.offset = o.offset
  projections : other.projections = .null
  given : other.given = o.given.filter fun f => (o.field f).kind != .null

omit [Machine] in
/-- Only the columns to return set the fields of one kind apart from those of the other. -/
theorem filter_fields_eq {p : OptionField → Bool} (no_columns : p .projections = false)
    (kind other : OptionsKind) : kind.fields.filter p = other.fields.filter p := by
  cases kind <;> cases other <;> simp [OptionsKind.fields, List.filter, no_columns]

namespace AsMade

variable {o : Options} (asMade : o.AsMade)

include asMade

theorem recordValue_copied (f : OptionField) {kind : OptionsKind} (has : f ∈ kind.fields) :
    recordValue kind o.copied.entries f = o.copy f := by
  rw [recordValue, if_pos (List.contains_iff_mem.2 has), fieldValue, readEntry, getText?_copied]
  by_cases filled : f ∈ o.filled
  · simp only [if_pos filled, asMade.readField_copy f]
  · have empty : o.field f = .null := not_not.1 (mt asMade.mem_filled_iff.2 filled)
    simp only [if_neg filled, copy_eq_null_iff.2 empty]

theorem isSome_getText?_copied (f : OptionField) :
    (o.copied.entries.getText? f.name).isSome = ((o.field f).kind != .null) := by
  rw [getText?_copied, Bool.eq_iff_iff, bne_iff_ne, Ne, Value.kind_eq_null_iff]
  by_cases filled : f ∈ o.filled
  · simpa [filled] using asMade.mem_filled_iff.1 filled
  · simpa [filled] using mt asMade.mem_filled_iff.2 filled

/-- Where another kind is needed, a record as made is taken like the copies of what it was given. -/
theorem coerce_eq {kind : OptionsKind} (other : kind ≠ o.kind) (statement : String) :
    coerce o.toValue kind statement = coerce o.copied.toValue kind statement := by
  have needed : asNeeded kind o.toValue = .ok o.copied.toValue := by
    rw [← asMade.plain_toValue]
    exact if_neg (Ne.symm other)
  have copied_needed : asNeeded kind o.copied.toValue = .ok o.copied.toValue := rfl
  rw [coerce, coerce, needed, copied_needed]

/-! ### Without columns to return -/

section

variable (no_columns : o.projections = .null) (kind : OptionsKind)

include no_columns

/-- The copies describe a record of any kind that holds the same. -/
theorem converts_record : o.Converts kind (record kind o.copied.entries) where
  kind := rfl
  sort := asMade.recordValue_copied .sort (by cases kind <;> decide)
  limit := (asMade.recordValue_copied .limit (by cases kind <;> decide)).trans
    (asMade.counts.1.inCell_eq none)
  offset := (asMade.recordValue_copied .offset (by cases kind <;> decide)).trans
    (asMade.counts.2.inCell_eq none)
  projections := by
    cases kind with
    | orderLimit => rfl
    | find =>
      have empty : o.field .projections = .null := no_columns
      have has : OptionField.projections ∈ OptionsKind.find.fields := by decide
      exact (asMade.recordValue_copied .projections has).trans (copy_eq_null_iff.2 empty)
  given := by
    have empty : (o.field .projections).kind = .null := congrArg Value.kind no_columns
    rw [← asMade.filled_eq_given, asMade.filled_eq, filter_fields_eq (by simp [empty]) o.kind kind]
    exact List.filter_congr fun f _ => asMade.isSome_getText?_copied f

/-- The copies have no flaws. -/
theorem flaws_copied_eq_nil : flaws kind o.copied = [] := by
  rw [asMade.flaws_copied, List.map_eq_nil_iff, List.filter_eq_nil_iff]
  intro f filled
  have full := asMade.mem_filled_iff.1 filled
  cases f with
  | projections => exact absurd no_columns full
  | sort | limit | offset => cases kind <;> decide

theorem coerce_of_no_columns (other : kind ≠ o.kind) (statement : String) :
    coerce o.toValue kind statement = pure (record kind o.copied.entries) :=
  (asMade.coerce_eq other statement).trans
    (coerce_of_no_flaws statement (asMade.flaws_copied_eq_nil no_columns kind))

end

/-! ### With columns to return -/

theorem kind_of_columns (columns : o.projections ≠ .null) : o.kind = .find := by
  obtain ⟨p, given⟩ := asMade.given_eq
  have among := (asMade.read_of_ne_null (f := .projections) columns).1
  rw [given] at among
  have has : OptionField.projections ∈ o.kind.fields := (List.mem_filter.1 among).1
  cases kind : o.kind with
  | find => rfl
  | orderLimit =>
    rw [kind] at has
    exact absurd has (by decide)

theorem flaws_copied_eq_columns (columns : o.projections ≠ .null) :
    flaws .orderLimit o.copied = [.unknown "projections" (o.copy .projections)] := by
  have full : ((o.field .projections).kind != .null) = true :=
    bne_iff_ne.2 (mt Value.kind_eq_null_iff.1 columns)
  have only : (o.filled.filter fun f => !OptionsKind.orderLimit.fields.contains f) =
      [.projections] := by
    rw [asMade.filled_eq, asMade.kind_of_columns columns, List.filter_filter]
    simp [OptionsKind.fields, List.filter, full]
  rw [asMade.flaws_copied, only]
  rfl

theorem coerce_of_columns (columns : o.projections ≠ .null) {kind : OptionsKind}
    (other : kind ≠ o.kind) (statement : String) :
    coerce o.toValue kind statement = Build.refuse .options []
      (withProblems statement o.copied.entries
        ⟨kind.name, [⟨["projections"], .knownName, o.copy .projections⟩]⟩) := by
  have find := asMade.kind_of_columns columns
  obtain rfl : kind = .orderLimit := by
    cases kind with
    | orderLimit => rfl
    | find => exact absurd find.symm other
  have flawed := asMade.flaws_copied_eq_columns columns
  have some_flaws : flaws .orderLimit o.copied ≠ [] := by
    rw [flawed]
    exact List.cons_ne_nil _ _
  rw [asMade.coerce_eq other, coerce_of_flaws statement some_flaws, flawed]
  rfl

end AsMade

end Options

namespace Session

open Options (Stored)

section

variable [Machine]

/-- A record as made is taken as it is where its own kind is needed.  Where the other kind is needed
it is taken as a record that holds the same, of which the same was given but for what is empty;
unless it names columns to return, even none of them, and is refused for that alone. -/
theorem coerce_record {o : Options} (asMade : o.AsMade) (kind : OptionsKind) (statement : String)
    (session : Session) :
    let outcome := (work (Options.coerce o.toValue kind statement) session).1
    (kind = o.kind → outcome = .ok o) ∧
      (kind ≠ o.kind → o.projections = .null →
        ∃ other, outcome = .ok other ∧ o.Converts kind other) ∧
      (kind ≠ o.kind → o.projections ≠ .null → o.kind = .find ∧
        outcome = .error (.invalidArgument (Options.withProblems statement o.copied.entries
          ⟨kind.name, [⟨["projections"], .knownName, o.copy .projections⟩]⟩))) ∧
      (o.kind = .orderLimit → ∃ wide,
        (work (Options.coerce o.toValue .find statement) session).1 = .ok wide ∧
        ∀ kept, Stored wide kept → ∀ (last : String) (later : Session), ∃ back,
          (work (Options.coerce kept.toValue .orderLimit last) later).1 = .ok back ∧
          back.kind = .orderLimit ∧ back.sort = o.copy .sort ∧ back.limit = o.limit ∧
          back.offset = o.offset) := by
  intro outcome
  refine ⟨?own, ?converted, ?refused, ?back⟩
  case own =>
    rintro rfl
    show (work (Options.coerce o.toValue o.kind statement) session).1 = _
    rw [Options.coerce_own, work_fst_pure]
  case converted =>
    intro other no_columns
    refine ⟨_, ?_, asMade.converts_record no_columns kind⟩
    show (work (Options.coerce o.toValue kind statement) session).1 = _
    rw [asMade.coerce_of_no_columns no_columns kind other, work_fst_pure]
  case refused =>
    intro other columns
    refine ⟨asMade.kind_of_columns columns, ?_⟩
    show (work (Options.coerce o.toValue kind statement) session).1 = _
    rw [asMade.coerce_of_columns columns other, work_fst_refuse (by decide)]
  case back =>
    intro narrow
    have no_columns : o.projections = .null := by
      by_contra columns
      exact absurd (narrow.symm.trans (asMade.kind_of_columns columns)) (by decide)
    have other : OptionsKind.find ≠ o.kind := by rw [narrow]; decide
    have wide := asMade.converts_record no_columns .find
    refine ⟨Options.record .find o.copied.entries, ?_, fun kept stored last later => ?_⟩
    · rw [asMade.coerce_of_no_columns no_columns .find other, work_fst_pure]
    · have kept_asMade : kept.AsMade := ⟨o.copied.entries, _, by
        rw [stored.kind]
        exact Options.ofEntries_of_no_flaws (asMade.flaws_copied_eq_nil no_columns .find), stored⟩
      have kept_no_columns : kept.projections = .null := by
        obtain ⟨cell, same⟩ := stored.projections
        rw [same, wide.projections]
        rfl
      have back := kept_asMade.converts_record kept_no_columns .orderLimit
      have kept_other : OptionsKind.orderLimit ≠ kept.kind := by rw [stored.kind, wide.kind]; decide
      refine ⟨_, ?_, back.kind, ?_, back.limit.trans (stored.limit.trans wide.limit),
        back.offset.trans (stored.offset.trans wide.offset)⟩
      · rw [kept_asMade.coerce_of_no_columns kept_no_columns .orderLimit kept_other, work_fst_pure]
      · have sort : kept.sort.inCell none =
            (Options.record .find o.copied.entries).sort.inCell none :=
          stored.toPlaced.copy_eq .sort
        rw [back.sort, sort, wide.sort, Value.inCell_inCell]
        rfl

end

/-- A record of a find that was given an ordering, no rows at most and an empty offset. -/
def noneOfThem : Options :=
  ⟨some 1, .find, [.sort, .limit, .offset],
    .mapping (some 0) [(.str "name", .str "DESC"), (.str "age", .str "up")], .int 0, .null, .null⟩

/-- A record of a find that was given no columns to return. -/
def noColumns : Options := ⟨none, .find, [.projections], .null, .null, .null, Value.ofItems []⟩

/-- A record that was given an offset and an empty ordering. -/
def fromThird : Options :=
  ⟨none, .orderLimit, [.sort, .offset], Value.ofEntries [], .null, .int 2, .null⟩

theorem coerce_record_noneOfThem :
    let given : Entries := [(.str "limit", .int 0), (.str "offset", .null), (.str "sort",
      Value.ofEntries [(.str "name", .direction .desc), (.str "age", .str "up")])]
    (∃ made, Options.ofEntries .find given = .ok made ∧ Stored made noneOfThem) ∧
      noneOfThem.AsMade ∧ noColumns.AsMade ∧ fromThird.AsMade ∧
      (∃ other, (work (Options.coerce noneOfThem.toValue .orderLimit "update") default).1 =
          .ok other ∧ noneOfThem.Converts .orderLimit other ∧ other.given = [.sort, .limit]) ∧
      (∃ error, (work (Options.coerce noColumns.toValue .orderLimit "delete") default).1 =
          .error (.invalidArgument error) ∧
        error.value = Value.ofEntries [(.str "projections", Value.ofItems [])]) ∧
      (work (Options.coerce noColumns.toValue .find "find") default).1 = .ok noColumns ∧
      ∃ wide back, (work (Options.coerce fromThird.toValue .find "find") default).1 = .ok wide ∧
        (work (Options.coerce wide.toValue .orderLimit "delete") default).1 = .ok back ∧
        back.sort = Value.ofEntries [] ∧ back.offset = .int 2 := by
  intro given
  have described : Options.ofEntries .find given = .ok _ := rfl
  have stored : Stored (Options.record .find given) noneOfThem :=
    ⟨⟨rfl, ⟨some 0, rfl⟩, rfl, rfl, ⟨none, rfl⟩⟩, rfl⟩
  have first : noneOfThem.AsMade := ⟨given, _, described, stored⟩
  have second : noColumns.AsMade :=
    ⟨[(.str "projections", Value.ofItems [])], _, rfl, Options.placed_self, rfl⟩
  have third : fromThird.AsMade :=
    ⟨[(.str "offset", .int 2), (.str "sort", Value.ofEntries [])], _, rfl, Options.placed_self, rfl⟩
  have named : noColumns.projections ≠ .null := by rintro ⟨⟩
  obtain ⟨_, converted, _, _⟩ := coerce_record first .orderLimit "update" default
  obtain ⟨_, _, refused, _⟩ := coerce_record second .orderLimit "delete" default
  obtain ⟨own, _, _, _⟩ := coerce_record second .find "find" default
  obtain ⟨_, _, _, widened⟩ := coerce_record third .find "find" default
  obtain ⟨other, taken, converts⟩ := converted (by decide) rfl
  obtain ⟨wide, widened, narrowed⟩ := widened rfl
  obtain ⟨back, narrowed, _, sort, _, offset⟩ :=
    narrowed wide ⟨Options.placed_self, rfl⟩ "delete" default
  exact ⟨⟨_, described, stored⟩, first, second, third,
    ⟨other, taken, converts, converts.given⟩,
    ⟨_, (refused (by decide) named).2, rfl⟩, own rfl,
    wide, back, widened, narrowed, sort, offset⟩

end Session

end SqlAssembly
