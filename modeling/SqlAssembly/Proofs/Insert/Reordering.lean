import SqlAssembly.Proofs.Secrecy.Alike
import SqlAssembly.Proofs.Session.Requests

/-!
# Columns in another order

The columns of an insert of rows, and their order, come from the first row.  Of
every later row only its columns and what stands under them is asked, so that
the order in which it holds them shows nowhere: not in the text, not in the
values to bind, and not in an error, which names the columns of a row sorted
(`Value.mergedTexts_eq_of_perm`).

Inserts of rows that are the same up to such an order are alike from every desk
(`Prepared.insert_alike_of_reordered`) and come to the same in every session
(`Session.insert_reordered`).  Only a refused row is handed back as it was given.
-/

namespace SqlAssembly

section

/-- Texts are sorted the same, whatever order they come in. -/
theorem Value.mergedTexts_eq_of_perm {ss ts : List String} (perm : ss.Perm ts) :
    mergedTexts (ss.map .str) = mergedTexts (ts.map .str) := by
  have sorted (us : List String) : (mergedTexts (us.map .str)).Pairwise fun v w =>
      decide (v.text?.getD "" ≤ w.text?.getD "") = true := by
    refine List.pairwise_mergeSort (fun u v w first second => ?_) (fun v w => ?_) _
    · rw [decide_eq_true_iff] at first second ⊢
      exact String.le_trans first second
    · simpa using String.le_total (v.text?.getD "") (w.text?.getD "")
  have text {us : List String} {v : Value} (among : v ∈ mergedTexts (us.map .str)) :
      ∃ s, v = .str s := by
    obtain ⟨s, _, rfl⟩ := List.mem_map.1 ((mergedTexts_perm _).mem_iff.1 among)
    exact ⟨s, rfl⟩
  refine List.Perm.eq_of_pairwise (fun v w first second before after => ?_) (sorted ss) (sorted ts)
    ((mergedTexts_perm _).trans ((perm.map .str).trans (mergedTexts_perm _).symm))
  obtain ⟨s, rfl⟩ := text first
  obtain ⟨t, rfl⟩ := text second
  have same : s = t := String.le_antisymm (of_decide_eq_true before) (of_decide_eq_true after)
  rw [same]

/-! ## Reordered rows -/

/-- Rows with the same values under the same columns, in any order and in any cells. -/
def Row.Reordered (row other : Row) : Prop := row.bindings.Perm other.bindings

namespace Row.Reordered

variable {row other : Row}

theorem symm (reordered : row.Reordered other) : other.Reordered row := List.Perm.symm reordered

theorem columns_perm (reordered : row.Reordered other) : row.columns.Perm other.columns :=
  List.Perm.map Prod.fst reordered

theorem hasColumns_iff (reordered : row.Reordered other) (columns : List String) :
    row.HasColumns columns ↔ other.HasColumns columns :=
  forall_congr' fun _ => iff_congr reordered.columns_perm.mem_iff Iff.rfl

theorem valueAt_eq (reordered : row.Reordered other) : row.valueAt = other.valueAt := by
  funext column
  have found : row.bindings.get? column = other.bindings.get? column := by
    ext v
    rw [Row.get?_eq_some_iff, Row.get?_eq_some_iff]
    exact List.Perm.mem_iff reordered
  rw [Row.valueAt, Row.valueAt, found]

/-- The errors of the rows differ in the rows themselves only. -/
theorem columnsError_eq (reordered : row.Reordered other) (columns : List String) (i : Nat) :
    Prepared.columnsError columns i other =
      { Prepared.columnsError columns i row with value := other.toValue } := by
  simp only [Prepared.columnsError, Prepared.otherColumns,
    Value.mergedTexts_eq_of_perm reordered.columns_perm]

end Row.Reordered

namespace Prepared

/-- Rows for an insert of which each later one is reordered; the first ones have the same order. -/
inductive Reordered : List Row → List Row → Prop
  | nil : Reordered [] []
  | cons {first other : Row} {rest others : List Row} (same : first.bindings = other.bindings)
      (later : List.Forall₂ Row.Reordered rest others) : Reordered (first :: rest) (other :: others)

namespace Reordered

variable {rows others : List Row}

theorem forall₂ (reordered : Reordered rows others) : List.Forall₂ Row.Reordered rows others := by
  cases reordered with
  | nil => exact .nil
  | cons same later => exact .cons (List.Perm.of_eq same) later

theorem symm (reordered : Reordered rows others) : Reordered others rows := by
  cases reordered with
  | nil => exact .nil
  | cons same later => exact .cons same.symm (later.flip.imp fun _ _ => Row.Reordered.symm)

theorem length_eq (reordered : Reordered rows others) : rows.length = others.length :=
  reordered.forall₂.length_eq

theorem fields_eq (reordered : Reordered rows others) : fields rows = fields others := by
  cases reordered with
  | nil => rfl
  | cons same later => exact congrArg (List.map Prod.fst) same

theorem grid_eq (reordered : Reordered rows others) (columns : List String) :
    grid columns rows = grid columns others := by
  have each := reordered.forall₂
  clear reordered
  induction each with
  | nil => rfl
  | cons first _ ih =>
    rw [grid, List.flatMap_cons, first.valueAt_eq]
    exact congrArg _ ih

/-- In each place of the one stands a row that is reordered in the other. -/
theorem getElem? (reordered : Reordered rows others) {i : Nat} {row : Row}
    (here : rows[i]? = some row) : ∃ other, others[i]? = some other ∧ row.Reordered other := by
  have each := reordered.forall₂
  clear reordered
  induction each generalizing i with
  | nil => cases here
  | @cons first other _ _ head _ ih =>
    cases i with
    | zero =>
      cases here
      exact ⟨other, rfl, head⟩
    | succ i => exact ih here

/-- The first odd rows stand in the same place. -/
theorem firstOdd (reordered : Reordered rows others) {columns : List String} {i : Nat} {row : Row}
    (first_odd : FirstOdd columns rows i row) :
    ∃ other, row.Reordered other ∧ FirstOdd columns others i other := by
  obtain ⟨other, there, same⟩ := reordered.getElem? first_odd.here
  refine ⟨other, same, there, mt (same.hasColumns_iff columns).2 first_odd.odd, ?_⟩
  intro j earlier less found
  obtain ⟨before, found_too, same_before⟩ := reordered.symm.getElem? found
  exact (same_before.hasColumns_iff columns).2 (first_odd.before j before less found_too)

theorem hasColumns (reordered : Reordered rows others) {columns : List String}
    (same : ∀ row ∈ rows, row.HasColumns columns) : ∀ row ∈ others, row.HasColumns columns := by
  intro row among
  obtain ⟨i, here⟩ := List.getElem?_of_mem among
  obtain ⟨other, there, same_row⟩ := reordered.symm.getElem? here
  exact (same_row.hasColumns_iff columns).2 (same other (List.mem_of_getElem? there))

end Reordered

/-! ## Inserts of reordered rows -/

/-- Rows that stand in one place of two sequences, as values. -/
def SamePlace (rows others : List Row) (v w : Value) : Prop :=
  ∃ (i : Nat) (row other : Row), rows[i]? = some row ∧ others[i]? = some other ∧
    v = row.toValue ∧ w = other.toValue

variable [Machine]

/-- Inserts of reordered rows are alike: what is bound is the same, and so is what is recorded. -/
theorem insert_alike_of_reordered (table : Value) {rows others : List Row}
    (reordered : Reordered rows others) (cell cell' : Cell) :
    Build.Alike (SamePlace rows others) Eq (insert table (.list cell (rows.map Row.toValue)))
      (insert table (.list cell' (others.map Row.toValue))) := by
  intro desk
  by_cases none_there : rows = []
  · subst none_there
    cases reordered
    exact ⟨.fault _, rfl⟩
  · by_cases same : ∀ row ∈ rows, row.HasColumns (fields rows)
    · have some_others : others ≠ [] := by
        rintro rfl
        exact none_there (List.length_eq_zero_iff.1 reordered.length_eq)
      have same_others := reordered.hasColumns same
      rw [reordered.fields_eq] at same_others
      rw [insert_of_hasColumns none_there same, insert_of_hasColumns some_others same_others,
        ← reordered.fields_eq, ← reordered.length_eq, reordered.grid_eq]
      exact ⟨.refl (fun _ => rfl) _, rfl⟩
    · obtain ⟨i, row, first_odd⟩ := exists_firstOdd same
      obtain ⟨other, same_row, first_odd_too⟩ := reordered.firstOdd first_odd
      have place : SamePlace rows others row.toValue other.toValue :=
        ⟨i, row, other, first_odd.here, first_odd_too.here, rfl, rfl⟩
      rw [reordered.fields_eq] at first_odd_too
      rw [insert_of_firstOdd first_odd, insert_of_firstOdd first_odd_too, ← reordered.fields_eq,
        same_row.columnsError_eq]
      exact ⟨.refused place, rfl⟩

end Prepared

namespace Session

open Prepared (Reordered SamePlace)

variable [Machine]

/-- An insert of rows comes to the same, with the same lines in the journal, if the columns of
later rows are put in another order: to the same text and the same values to bind, or to a refusal
with the same argument and the same message, which may hand back the refused row in its own order.
Only rows that memory does not hold are neither inserted nor refused. -/
theorem insert_reordered {rows others : List Row} (reordered : Reordered rows others)
    (table : String) (cell cell' : Cell) (session : Session) :
    let one := work (Prepared.insert (.str table) (.list cell (rows.map Row.toValue))) session
    let other := work (Prepared.insert (.str table) (.list cell' (others.map Row.toValue))) session
    one.2 = other.2 ∧
      ((∃ p, one.1 = .ok p ∧ other.1 = .ok p) ∨
        (∃ error error' : InvalidArgument, one.1 = .error (.invalidArgument error) ∧
          other.1 = .error (.invalidArgument error') ∧ error'.statement = error.statement ∧
          error'.argument = error.argument ∧ error'.detail = error.detail ∧
          (Fault.invalidArgument error').message = (Fault.invalidArgument error).message ∧
          (error'.value = error.value ∨ SamePlace rows others error.value error'.value)) ∨
        ¬ Prepared.Held table rows ∧ ∃ fault, (fault = .outOfMemory ∨ fault = .repetitionTooLarge) ∧
          one.1 = .error fault ∧ other.1 = .error fault) := by
  intro one other
  obtain ⟨alike, same_session⟩ :=
    (Prepared.insert_alike_of_reordered (.str table) reordered cell cell').work session
  have alike : Alike (SamePlace rows others) Eq one.1 other.1 := alike
  refine ⟨same_session, ?_⟩
  let r := Request.insertRows table cell rows
  have comes : r.ComesOut session one.1 :=
    endedBy_comesOut (Request.insertRows_ended table cell rows) trivial session
  generalize one.1 = first, other.1 = second at alike comes
  by_cases large : r.TooLarge
  · have by_size := comes.of_large large
    refine Or.inr (Or.inr ⟨large.2, ?_⟩)
    cases alike with
    | ok _ => rcases by_size with no_fault | no_fault <;> cases no_fault
    | refused _ => rcases by_size with no_refusal | no_refusal <;> cases no_refusal
    | fault fault => exact ⟨fault, by_size.imp Except.error.inj Except.error.inj, rfl, rfl⟩
  · have tellable : ¬ r.Untellable session := by
      rintro ⟨_, o, reached, _⟩
      cases reached
    rcases comes.of_free large rfl tellable with ⟨p, rfl⟩ | ⟨error, rfl, _⟩
    · cases alike with
      | ok same => exact Or.inl ⟨p, rfl, by rw [same]⟩
    · refine Or.inr (Or.inl ?_)
      cases alike with
      | fault _ => exact ⟨error, error, rfl, rfl, rfl, rfl, rfl, rfl, Or.inl rfl⟩
      | refused place => exact ⟨error, _, rfl, rfl, rfl, rfl, rfl, rfl, Or.inr place⟩

/-- The first row with other columns is refused in every session. -/
theorem insert_refused {table : String} {cell : Cell} {rows : List Row} {i : Nat} {row : Row}
    (first_odd : FirstOdd (Prepared.fields rows) rows i row) (session : Session) :
    (work (Prepared.insert (.str table) (.list cell (rows.map Row.toValue))) session).1 =
      .error (.invalidArgument (Prepared.columnsError (Prepared.fields rows) i row)) := by
  have known : Logger.prepared ∈ Logger.all := by decide
  have run := @Prepared.insert_of_firstOdd _ (.str table) cell rows session.desk i row first_odd
  rw [work_fst_of_isSimple, run]
  rw [run]
  exact List.forall_mem_singleton.2 (Request.event_isSimple _ known)

end Session

end

namespace Session

open Prepared (Reordered)

/-- A row of two columns. -/
def ann : Row := ⟨none, [("name", .str "Ann"), ("age", .int 3)], by decide⟩

/-- A row of these columns and another one, which comes first. -/
def bob : Row := ⟨none, [("zip", .int 1), ("name", .str "Bob"), ("age", .null)], by decide⟩

/-- The same with the columns in another order. -/
def turnedBob : Row := ⟨none, [("age", .null), ("zip", .int 1), ("name", .str "Bob")], by decide⟩

theorem firstOdd_zip (row : Row) (zip : "zip" ∈ row.columns) :
    FirstOdd (Prepared.fields [ann, row]) [ann, row] 1 row where
  here := rfl
  odd := fun same => absurd ((same "zip").1 zip) (show "zip" ∉ ["name", "age"] by decide)
  before := by
    intro j earlier first there
    obtain rfl : j = 0 := Nat.lt_one_iff.1 first
    cases there
    exact fun _ => Iff.rfl

theorem insert_reordered_bob :
    let one := work (Prepared.insert (.str "t") (.list none [ann.toValue, bob.toValue])) default
    let other :=
      work (Prepared.insert (.str "t") (.list none [ann.toValue, turnedBob.toValue])) default
    let error := Prepared.columnsError ann.columns 1
    Reordered [ann, bob] [ann, turnedBob] ∧ one.1 = .error (.invalidArgument (error bob)) ∧
      other.1 = .error (.invalidArgument (error turnedBob)) ∧ one.2 = other.2 ∧
      (error turnedBob).detail = (error bob).detail := by
  intro one other error
  have reordered : Reordered [ann, bob] [ann, turnedBob] :=
    .cons rfl (.cons (@List.perm_append_comm _ [_, _] [_]) .nil)
  have one_refused : one.1 = .error (.invalidArgument (error bob)) :=
    insert_refused (firstOdd_zip bob (by decide)) default
  have other_refused : other.1 = .error (.invalidArgument (error turnedBob)) :=
    insert_refused (firstOdd_zip turnedBob (by decide)) default
  obtain ⟨same_session, outcomes⟩ := insert_reordered reordered "t" none none default
  refine ⟨reordered, one_refused, other_refused, same_session, ?_⟩
  rcases outcomes with ⟨p, inserted, _⟩ | ⟨_, _, refused, refused_too, _, _, same, _⟩ |
    ⟨_, fault, by_size, failed, _⟩
  · cases one_refused.symm.trans inserted
  · cases one_refused.symm.trans refused
    cases other_refused.symm.trans refused_too
    exact same
  · cases one_refused.symm.trans failed
    rcases by_size with no_refusal | no_refusal <;> cases no_refusal

end Session

end SqlAssembly
