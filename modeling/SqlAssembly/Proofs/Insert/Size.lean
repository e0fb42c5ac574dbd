import SqlAssembly.Statement.Insert

/-!
# The size of an insert

An insert comes into memory as a list with a place for each of its groups and as
the text that is made of them.  Its text is not made to be measured: the size
found beforehand is its weight (`Statement.weight_insertText`).

An insert of some rows with some columns is built exactly if it fits, which is
that memory holds both (`Statement.insert_of_fits`, `Statement.insert_of_not_fits`).
-/

namespace SqlAssembly

/-! ## Texts made of equal parts -/

namespace Text

theorem length_intercalate_replicate (separator part : String) (n : Nat) :
    (separator.intercalate (List.replicate n part)).length =
      n * part.length + (n - 1) * separator.length := by
  match n with
  | 0 => simp
  | 1 => simp
  | n + 2 =>
    have rest := length_intercalate_replicate separator part (n + 1)
    rw [List.replicate_succ] at rest
    rw [List.replicate_succ, List.replicate_succ, String.intercalate_cons_cons, String.length_append,
      String.length_append, rest]
    simp only [Nat.add_one_sub_one, Nat.succ_mul]
    omega

theorem below_of_le {bound more : Nat} (le : bound ≤ more) {s : String}
    (small : below bound s = true) : below more s = true := by
  simp only [below, List.all_eq_true, decide_eq_true_eq] at small ⊢
  exact fun c among => Nat.lt_of_lt_of_le (small c among) le

theorem below_intercalate_replicate {bound : Nat} {separator part : String}
    (separated : below bound separator = true) (parted : below bound part = true) (n : Nat) :
    below bound (separator.intercalate (List.replicate n part)) = true := by
  match n with
  | 0 => rfl
  | 1 => simpa using parted
  | n + 2 =>
    have rest := below_intercalate_replicate separated parted (n + 1)
    rw [List.replicate_succ] at rest
    rw [List.replicate_succ, List.replicate_succ, String.intercalate_cons_cons, below_append,
      below_append, parted, separated, rest]
    rfl

end Text

namespace Binding

theorem length_group (arity : Nat) : (group arity).length = groupLength arity := by
  have mark : "?".length = 1 := rfl
  have comma : ",".length = 1 := rfl
  have bracket : "(".length = 1 ∧ ")".length = 1 := ⟨rfl, rfl⟩
  rw [group, String.length_append, String.length_append, Text.length_intercalate_replicate, mark,
    comma, bracket.1, bracket.2, groupLength]
  omega

theorem below_group (arity : Nat) : Text.below 0x80 (group arity) = true := by
  have inner := @Text.below_intercalate_replicate 0x80 "," "?"
    (by decide) (by decide) arity
  rw [group, Text.below_append, Text.below_append, inner]
  decide

end Binding

/-! ## The weight of an insert -/

namespace Statement

/-- The text around the names of an insert is of seven-bit characters. -/
theorem below_insertText {bound : Nat} (ascii : 0x80 ≤ bound) (table : Value) (columns : String)
    (width rows : Nat) :
    Text.below bound (insertText table columns (Binding.group width) rows) =
      Text.below bound (table.display ++ columns) := by
  have plain {s : String} (seven_bit : Text.below 0x80 s = true) : Text.below bound s = true :=
    Text.below_of_le ascii seven_bit
  have groups : Text.below bound (",".intercalate (List.replicate rows (Binding.group width))) = true :=
    plain (Text.below_intercalate_replicate (by decide) (Binding.below_group width) rows)
  have start : Text.below bound "INSERT INTO " = true := plain (by decide)
  have opening : Text.below bound " (" = true := plain (by decide)
  have closing : Text.below bound ") VALUES " = true := plain (by decide)
  unfold insertText
  simp only [Text.below_append, groups, start, opening, closing, Bool.true_and, Bool.and_true]

theorem width_insertText (table : Value) (columns : String) (width rows : Nat) :
    Text.width (insertText table columns (Binding.group width) rows) =
      Text.width (table.display ++ columns) := by
  rw [Text.width, Text.width, below_insertText (by decide), below_insertText (by decide)]

theorem length_insertText (table : Value) (columns : String) (width rows : Nat) :
    (insertText table columns (Binding.group width) rows).length =
      "INSERT INTO  () VALUES ".length + (table.display ++ columns).length +
        rows * Binding.groupLength width + (rows - 1) := by
  have around : "INSERT INTO ".length = 12 ∧ " (".length = 2 ∧ ") VALUES ".length = 9 ∧
      "INSERT INTO  () VALUES ".length = 23 ∧ ",".length = 1 := by decide
  obtain ⟨start, opening, closing, all, comma⟩ := around
  unfold insertText
  rw [String.length_append, String.length_append, String.length_append,
    String.length_append, String.length_append, String.length_append,
    Text.length_intercalate_replicate, Binding.length_group, start, opening, closing, all, comma]
  omega

/-- The size of the text of an insert is its weight. -/
theorem weight_insertText (table : Value) (columns : String) (width rows : Nat) :
    Text.weight (insertText table columns (Binding.group width) rows) =
      insertSize table columns width rows := by
  rw [Text.weight, width_insertText, length_insertText, insertSize]

/-! ## Inserts that fit -/

variable [Machine]

/-- An insert that memory holds: a list with a place for each row, and the text. -/
structure Fits (table : String) (columns : List String) (rows : Nat) : Prop where
  /-- An index counts the rows. -/
  countable : (rows : Int) < Value.indexLimit
  /-- Memory holds the list. -/
  places : rows * placeSize < Machine.memory
  /-- Memory holds the text. -/
  text : Text.weight (insertText (.str table) (",".intercalate columns)
    (Binding.group columns.length) rows) < Machine.memory

/-- What goes wrong with an insert that does not fit. -/
def sizeFault (rows : Nat) : Fault :=
  if Value.indexLimit ≤ rows then .repetitionTooLarge else .outOfMemory

section

variable {table : String} {columns : List String} {rows : Nat}

/-- Where an insert fits, its groups are repeated and memory holds its text. -/
theorem Fits.steps (fits : Fits table columns rows) :
    Binding.repetitions placeSize rows = .ok rows ∧
      Binding.hold (insertSize (.str table) (",".intercalate columns) columns.length rows) =
        .ok () := by
  have few : ¬ ((rows : Int) < -Value.indexLimit ∨ Value.indexLimit ≤ rows) := by
    have := fits.countable
    have positive : 0 < Value.indexLimit := by decide
    omega
  have small : ¬ Machine.memory ≤ rows * placeSize := Nat.not_le.2 fits.places
  have light := fits.text
  rw [weight_insertText] at light
  constructor
  · simp only [Binding.repetitions, if_neg few, Int.toNat_natCast, Binding.hold, if_neg small]
    rfl
  · rw [Binding.hold, if_neg (Nat.not_le.2 light)]

/-- Where it does not, one of these steps fails. -/
theorem steps_of_not_fits (large : ¬ Fits table columns rows) :
    Binding.repetitions placeSize rows = .error (sizeFault rows) ∨
      Binding.repetitions placeSize rows = .ok rows ∧
        Binding.hold (insertSize (.str table) (",".intercalate columns) columns.length rows) =
          .error (sizeFault rows) := by
  have positive : 0 < Value.indexLimit := by decide
  by_cases many : Value.indexLimit ≤ (rows : Int)
  · refine Or.inl ?_
    rw [Binding.repetitions, if_pos (Or.inr many), sizeFault, if_pos many]
  · have few : ¬ ((rows : Int) < -Value.indexLimit ∨ Value.indexLimit ≤ rows) := by omega
    simp only [Binding.repetitions, if_neg few, Int.toNat_natCast, Binding.hold, sizeFault,
      if_neg many]
    by_cases places : Machine.memory ≤ rows * placeSize
    · exact Or.inl (by rw [if_pos places]; rfl)
    · refine Or.inr ⟨by rw [if_neg places]; rfl, if_pos ?_⟩
      rw [← weight_insertText]
      exact Nat.not_lt.1 fun light => large ⟨Int.not_le.1 many, Nat.not_le.1 places, light⟩

variable {fields rowCount : Value}

section

variable (accepted : insertRows fields rowCount = .ok rows)
  (sized : fields.size = .ok columns.length)
  (joined : fields.join "," = .ok (",".intercalate columns)) (desk : Desk)

include accepted sized joined

theorem insert_of_fits (fits : Fits table columns rows) :
    insert (.str table) fields rowCount desk =
      (.ok (insertText (.str table) (",".intercalate columns) (Binding.group columns.length) rows),
        desk.record (built .insert "insert" (.str table)
          (("rows", .count rows) :: placeholderCount (columns.length * rows)))) := by
  obtain ⟨repeated, held⟩ := fits.steps
  simp only [insert, accepted, sized, joined, Value.written_str, repeated, held, Build.checked_ok,
    Build.bind_apply, Build.pure_apply, Build.lift_apply, Build.emit_apply]

theorem insert_of_not_fits (large : ¬ Fits table columns rows) :
    insert (.str table) fields rowCount desk = (.error (sizeFault rows), desk) := by
  simp only [insert, accepted, sized, joined, Value.written_str, Build.checked_ok,
    Build.bind_apply, Build.pure_apply, Build.lift_apply]
  rcases steps_of_not_fits large with refused | ⟨repeated, refused⟩
  · simp only [refused]
  · simp only [repeated, refused]

end

end

end Statement

end SqlAssembly
