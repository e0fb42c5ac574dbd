import SqlAssembly.Proofs.Outcome
import SqlAssembly.Proofs.Row

/-!
# The columns of rows

An insert takes its columns from the first row and asks of every other one that
it has the same, in any order.  Texts are compared as members of sets here, and
nothing else comes into it (`Value.sameMembers_map_str`).

The check passes rows with the same columns and stops at the first row with
others (`rowsError?_eq_none`, `rowsError?_eq_some`).  Its error has the place of
that row among all of them, the row itself, and both sets of columns, sorted.
-/

namespace SqlAssembly

/-! ## Sets of texts -/

namespace Value

theorem firstObstacle_map_str (ss : List String) : firstObstacle (ss.map .str) = none := by
  induction ss with
  | nil => rfl
  | cons s ss ih => simp [firstObstacle, obstacle?, ih]

theorem isAmong_map_str (s : String) (ts : List String) :
    isAmong (.str s) (ts.map .str) = decide (s ∈ ts) := by
  rw [isAmong, List.any_map, Bool.eq_iff_iff, List.any_eq_true, decide_eq_true_iff]
  simp [same_str]

/-- Texts are the same members exactly if every text is among both or among none. -/
theorem sameMembers_map_str (ss ts : List String) :
    sameMembers (ss.map .str) (ts.map .str) = true ↔ ∀ s, s ∈ ss ↔ s ∈ ts := by
  simp only [sameMembers, List.all_map, Bool.and_eq_true, List.all_eq_true, Function.comp_apply,
    isAmong_map_str, decide_eq_true_iff]
  constructor
  · rintro ⟨first, second⟩ s
    exact ⟨first s, second s⟩
  · intro same
    exact ⟨fun s => (same s).1, fun s => (same s).2⟩

/-- Different texts are all kept in a set. -/
theorem distinct_map_str {ss : List String} (distinct_texts : ss.Nodup) :
    distinct (ss.map .str) = ss.map .str := by
  have kept (before : List String) (disjoint : (before ++ ss).Nodup) :
      (ss.map Value.str).foldl (fun kept v => if v.isAmong kept then kept else kept ++ [v])
        (before.map .str) = (before ++ ss).map .str := by
    clear distinct_texts
    induction ss generalizing before with
    | nil => simp
    | cons s ss ih =>
      have new : s ∉ before := by
        intro among
        exact (List.nodup_append.1 disjoint).2.2 s among s List.mem_cons_self rfl
      have later := ih (before ++ [s]) (by simpa using disjoint)
      rw [List.map_cons, List.foldl_cons, isAmong_map_str, if_neg (by simpa using new)]
      simpa using later
  exact kept [] distinct_texts

/-- Texts have no place and are not empty values, so that a set of them keeps their order. -/
theorem setOrder_map_str (ss : List String) : setOrder (ss.map .str) = ss.map .str := by
  have numbers : (ss.map Value.str).filter (fun v => v.place?.isSome) = [] := by
    rw [List.filter_eq_nil_iff]
    intro v among
    obtain ⟨s, _, rfl⟩ := List.mem_map.1 among
    exact Bool.false_ne_true
  have others : (ss.map Value.str).filter (fun v => v.place?.isNone && v.kind != .null) =
      ss.map .str := by
    rw [List.filter_eq_self]
    intro v among
    obtain ⟨s, _, rfl⟩ := List.mem_map.1 among
    rfl
  have nothing : (ss.map Value.str).filter (fun v => v.kind == .null) = [] := by
    rw [List.filter_eq_nil_iff]
    intro v among
    obtain ⟨s, _, rfl⟩ := List.mem_map.1 among
    exact Bool.false_ne_true
  simp only [setOrder, numbers, others, nothing, List.nil_append, List.append_nil]

theorem item_list_zero (cell : Cell) (v : Value) (vs : List Value) :
    (Value.list cell (v :: vs)).item (.int 0) = .ok v := by
  have small : ¬ ((0 : Int) < -indexLimit ∨ indexLimit ≤ 0) := by decide
  have position : position? (v :: vs).length 0 = some 0 := by
    rw [position?, if_neg (Int.lt_irrefl 0), List.length_cons, if_pos ⟨Int.le_refl 0, by omega⟩]
    rfl
  have at_start :
      positionOf .list (v :: vs).length (.indexOutOfRange .list) (.int 0) = .ok 0 := by
    simp only [positionOf, integer?, if_neg small, position]
  show itemAt .list _ (.int 0) = _
  rw [itemAt, at_start]
  rfl

end Value

/-! ## The check of the rows -/

/-- A row has some columns, in any order, and no others. -/
def Row.HasColumns (row : Row) (columns : List String) : Prop :=
  ∀ column, column ∈ row.columns ↔ column ∈ columns

/-- The first of some rows that has other columns than those that are expected, with its place. -/
structure FirstOdd (columns : List String) (rows : List Row) (i : Nat) (row : Row) : Prop where
  here : rows[i]? = some row
  odd : ¬ row.HasColumns columns
  before : ∀ (j : Nat) (earlier : Row), j < i → rows[j]? = some earlier →
    earlier.HasColumns columns

theorem FirstOdd.tail {columns : List String} {first row : Row} {rest : List Row} {i : Nat}
    (first_odd : FirstOdd columns (first :: rest) (i + 1) row) : FirstOdd columns rest i row where
  here := first_odd.here
  odd := first_odd.odd
  before := fun j earlier less there =>
    first_odd.before (j + 1) earlier (Nat.succ_lt_succ less) there

/-- Where some row has other columns, there is a first one. -/
theorem exists_firstOdd {columns : List String} {rows : List Row}
    (odd : ¬ ∀ row ∈ rows, row.HasColumns columns) : ∃ i row, FirstOdd columns rows i row := by
  induction rows with
  | nil => exact absurd (fun row among => absurd among List.not_mem_nil) odd
  | cons first rest ih =>
    by_cases same : first.HasColumns columns
    · have odd_rest : ¬ ∀ row ∈ rest, row.HasColumns columns := by
        intro all
        refine odd fun row among => ?_
        rcases List.mem_cons.1 among with rfl | later
        · exact same
        · exact all row later
      obtain ⟨i, row, here, differs, before⟩ := ih odd_rest
      refine ⟨i + 1, row, here, differs, fun j earlier less there => ?_⟩
      cases j with
      | zero =>
        cases there
        exact same
      | succ j => exact before j earlier (Nat.lt_of_succ_lt_succ less) there
    · exact ⟨0, first, rfl, same, fun j earlier less => absurd less (Nat.not_lt_zero j)⟩

variable [Machine]

/-- Columns in order are written on every machine. -/
theorem Value.written_mergedTexts (columns : List String) :
    (Value.ofItems (Value.mergedTexts (columns.map .str))).written = .ok () := by
  refine written_of_limit?_eq_none (limit?_ofItems fun v among => ?_)
  obtain ⟨s, _, rfl⟩ := List.mem_map.1 ((mergedTexts_perm _).mem_iff.1 among)
  exact ⟨s, rfl⟩

namespace Prepared

omit [Machine] in
theorem members_toValue (row : Row) : members row.toValue = .ok (row.columns.map .str) := by
  simp [members, Row.items_toValue, Value.firstObstacle_map_str, bind, Except.bind, pure,
    Except.pure]

/-- The error of a row, at some place, with other columns than those that are expected. -/
def columnsError (columns : List String) (index : Nat) (row : Row) : InvalidArgument :=
  otherColumns index row.toValue (Value.mergedTexts (row.columns.map .str))
    (Value.mergedTexts (columns.map .str))

variable {columns : List String}

theorem rowError?_of_hasColumns {row : Row} (same : row.HasColumns columns) (index : Nat) :
    rowError? (columns.map .str) index row.toValue = .ok none := by
  rw [rowError?, members_toValue]
  show (if _ then _ else _) = _
  rw [if_pos ((Value.sameMembers_map_str _ _).2 same)]
  rfl

theorem rowError?_of_not_hasColumns (distinct : columns.Nodup) {row : Row}
    (other : ¬ row.HasColumns columns) (index : Nat) :
    rowError? (columns.map .str) index row.toValue =
      .ok (some (columnsError columns index row)) := by
  rw [rowError?, members_toValue]
  show (if _ then _ else _) = _
  rw [if_neg fun same => other ((Value.sameMembers_map_str _ _).1 same),
    Value.distinct_map_str distinct, Value.setOrder_map_str, Value.sorted_texts,
    Value.sorted_texts]
  simp only [bind, Except.bind, Value.written_mergedTexts]
  rfl

/-- Rows that all have the columns pass. -/
theorem rowsError?_eq_none {rows : List Row} (same : ∀ row ∈ rows, row.HasColumns columns)
    (index : Nat) : rowsError? (columns.map .str) index (rows.map Row.toValue) = .ok none := by
  induction rows generalizing index with
  | nil => rfl
  | cons row rest ih =>
    rw [List.map_cons, rowsError?, rowError?_of_hasColumns (same row List.mem_cons_self)]
    exact ih (fun other among => same other (List.mem_cons_of_mem _ among)) (index + 1)

/-- The first row that does not have them has the error. -/
theorem rowsError?_eq_some (distinct : columns.Nodup) {rows : List Row} {i : Nat} {row : Row}
    (first_odd : FirstOdd columns rows i row) (index : Nat) :
    rowsError? (columns.map .str) index (rows.map Row.toValue) =
      .ok (some (columnsError columns (index + i) row)) := by
  induction rows generalizing index i with
  | nil => cases first_odd.here
  | cons first rest ih =>
    rw [List.map_cons, rowsError?]
    cases i with
    | zero =>
      have here := first_odd.here
      cases here
      rw [rowError?_of_not_hasColumns distinct first_odd.odd]
      rfl
    | succ i =>
      have first_same := first_odd.before 0 first (Nat.zero_lt_succ i) rfl
      have later := ih first_odd.tail (index + 1)
      rw [Nat.add_right_comm, Nat.add_assoc] at later
      rw [rowError?_of_hasColumns first_same]
      exact later

end Prepared

end SqlAssembly
