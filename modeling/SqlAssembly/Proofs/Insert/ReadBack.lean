import SqlAssembly.Proofs.Session.Requests
import SqlAssembly.Proofs.Statement.Marks

/-!
# Reading inserts back

The text of an insert ends with a group of question marks for each row, which
begin after the last of the marks `VALUES` (`Statement.isAfterLast_insertText`).
Both numbers are read back from the groups, that of the groups and that of the
question marks in each (`Statement.groups_injective`).

So an insert whose table and columns have no character that the text has for
itself is read back from its text (`Statement.insertText_injective`).  In a
session there is one as soon as the number of rows is one, and memory holds the
insert (`Session.insertion_text`).
-/

namespace SqlAssembly

namespace Statement

/-! ## Groups -/

/-- A group of question marks for each row, with commas between them. -/
def groups (rows width : Nat) : String :=
  ",".intercalate (List.replicate rows (Binding.group width))

theorem marks_groups (rows width : Nat) : Clause.marks (groups rows width) = rows * width := by
  rw [groups, Clause.marks_intercalate (by decide), Clause.allMarks_replicate, marks_group]

theorem not_mem_replicate_marks {c : Char} (other : c ∉ ['?', ',']) (width : Nat) :
    c ∉ (",".intercalate (List.replicate width "?")).toList := by
  have apart : c ≠ '?' ∧ c ≠ ',' := by simpa using other
  refine Clause.not_mem_intercalate (by simpa using apart.2) fun part among => ?_
  rw [List.eq_of_mem_replicate among]
  simpa using apart.1

theorem not_mem_groups {c : Char} (other : c ∉ ['?', ',', '(', ')']) (rows width : Nat) :
    c ∉ (groups rows width).toList := by
  have apart : c ≠ '?' ∧ c ≠ ',' ∧ c ≠ '(' ∧ c ≠ ')' := by simpa using other
  refine Clause.not_mem_intercalate (by simpa using apart.2.1) fun part among => ?_
  rw [List.eq_of_mem_replicate among, Binding.group]
  refine Clause.not_mem_append (Clause.not_mem_append ?_ (not_mem_replicate_marks ?_ width)) ?_
  · simpa using apart.2.2.1
  · simpa using And.intro apart.1 apart.2.1
  · simpa using apart.2.2.2

/-- The groups begin with one of them. -/
theorem groups_eq_append {rows : Nat} (some_rows : rows ≠ 0) (width : Nat) :
    ∃ rest, groups rows width = Binding.group width ++ rest := by
  match rows with
  | 0 => exact absurd rfl some_rows
  | 1 => exact ⟨"", by simp [groups]⟩
  | rows + 2 =>
    refine ⟨"," ++ groups (rows + 1) width, ?_⟩
    rw [groups, List.replicate_succ, List.replicate_succ, String.intercalate_cons_cons,
      String.append_assoc]
    rfl

/-- The width of the groups is read from the first one, up to where it is closed. -/
theorem group_injective {width other : Nat} (some_width : width ≠ 0) (some_other : other ≠ 0)
    {rest more : String}
    (same : Binding.group width ++ rest = Binding.group other ++ more) : width = other := by
  have characters : (",".intercalate (List.replicate width "?")).toList ++ ')' :: rest.toList =
      (",".intercalate (List.replicate other "?")).toList ++ ')' :: more.toList := by
    simpa [Binding.group] using congrArg String.toList same
  obtain ⟨inner, _⟩ := Clause.first_cut_unique (not_mem_replicate_marks (by decide) width)
    (not_mem_replicate_marks (by decide) other) characters
  have marked : ∀ n, ∀ part ∈ List.replicate n "?", ',' ∉ part.toList := by
    intro n part among
    rw [List.eq_of_mem_replicate among]
    decide
  have replicated := Clause.intercalate_injective (by decide) (by simpa using some_width)
    (by simpa using some_other) (marked width) (marked other) (String.toList_inj.1 inner)
  simpa using congrArg List.length replicated

/-- The number of groups and their width are read back from the groups. -/
theorem groups_injective {rows others width other : Nat} (some_rows : rows ≠ 0)
    (some_others : others ≠ 0) (some_width : width ≠ 0) (some_other : other ≠ 0)
    (same : groups rows width = groups others other) : rows = others ∧ width = other := by
  obtain ⟨rest, first⟩ := groups_eq_append some_rows width
  obtain ⟨more, second⟩ := groups_eq_append some_others other
  obtain rfl : width = other :=
    group_injective some_width some_other (first.symm.trans (same.trans second))
  have counted := congrArg Clause.marks same
  rw [marks_groups, marks_groups] at counted
  exact ⟨Nat.eq_of_mul_eq_mul_right (Nat.pos_of_ne_zero some_width) counted, rfl⟩

/-! ## Texts -/

/-- What comes after the last place where a mark is in a text. -/
structure IsAfterLast (mark text rest : String) : Prop where
  /-- It comes after the mark. -/
  after : ∃ before, text = before ++ mark ++ rest
  /-- It is not longer than what comes after the mark in another place. -/
  last : ∀ before other, text = before ++ mark ++ other → rest.length ≤ other.length

/-- What has no space comes after the last place of a mark that ends with one. -/
theorem isAfterLast_of_no_space (stem : String) {mark rest : String} (mark_eq : mark = stem ++ " ")
    (no_space : ' ' ∉ rest.toList) (before : String) :
    IsAfterLast mark (before ++ mark ++ rest) rest := by
  refine ⟨⟨before, rfl⟩, fun start other same => ?_⟩
  have characters : (before ++ mark).toList ++ rest.toList =
      (start ++ stem).toList ++ ' ' :: other.toList := by
    rw [mark_eq] at same ⊢
    simpa using congrArg String.toList same
  -- The space that ends another place of the mark is not among what comes last.
  rcases List.append_eq_append_iff.1 characters with ⟨between, _, beyond⟩ | ⟨between, _, beyond⟩
  · exact absurd (by rw [beyond]; simp) no_space
  · cases between with
    | nil => exact absurd (by rw [← List.nil_append rest.toList, ← beyond]; simp) no_space
    | cons c between =>
      have longer : other.toList = between ++ rest.toList := (List.cons.inj beyond).2
      rw [← String.length_toList, ← String.length_toList, longer, List.length_append]
      exact Nat.le_add_left _ _

theorem insertText_eq (table : String) (columns : List String) (rows width : Nat) :
    insertText (.str table) (",".intercalate columns) (Binding.group width) rows =
      "INSERT INTO " ++ table ++ " (" ++ ",".intercalate columns ++ ")" ++ " VALUES " ++
        groups rows width := by
  have closed : ") VALUES " = ")" ++ " VALUES " := by decide
  show "INSERT INTO " ++ table ++ " (" ++ ",".intercalate columns ++ ") VALUES " ++
    groups rows width = _
  rw [closed]
  simp only [String.append_assoc]

/-- The groups come after the last of the marks for values. -/
theorem isAfterLast_insertText (table : String) (columns : List String) (rows width : Nat) :
    IsAfterLast " VALUES "
      (insertText (.str table) (",".intercalate columns) (Binding.group width) rows)
      (groups rows width) := by
  rw [insertText_eq]
  exact isAfterLast_of_no_space " VALUES" (by decide) (not_mem_groups (by decide) _ _) _

/-- A name with none of the characters that the text of an insert has for itself. -/
structure IsPlainName (name : String) : Prop where
  not_empty : name ≠ ""
  plain : ∀ c ∈ [' ', ',', '?', '(', ')'], c ∉ name.toList

/-- A table, columns and a number of rows are read back from the text of an insert. -/
theorem insertText_injective {table other : String} {columns others : List String} {n m : Nat}
    (plain_table : IsPlainName table) (plain_other : IsPlainName other)
    (plain_columns : ∀ name ∈ columns, IsPlainName name)
    (plain_others : ∀ name ∈ others, IsPlainName name) (some_columns : columns ≠ [])
    (some_others : others ≠ []) (some_rows : n ≠ 0) (some_more : m ≠ 0)
    (same : insertText (.str table) (",".intercalate columns) (Binding.group columns.length) n =
      insertText (.str other) (",".intercalate others) (Binding.group others.length) m) :
    table = other ∧ columns = others ∧ n = m := by
  rw [insertText_eq, insertText_eq] at same
  have characters : table.toList ++ ' ' :: '(' :: ((",".intercalate columns).toList ++
        ')' :: (" VALUES " ++ groups n columns.length).toList) =
      other.toList ++ ' ' :: '(' :: ((",".intercalate others).toList ++
        ')' :: (" VALUES " ++ groups m others.length).toList) := by
    simpa using congrArg String.toList same
  obtain ⟨tables, rest⟩ := Clause.first_cut_unique (plain_table.plain ' ' (by decide))
    (plain_other.plain ' ' (by decide)) characters
  have closing (names : List String) (plain : ∀ name ∈ names, IsPlainName name) :
      ')' ∉ (",".intercalate names).toList :=
    Clause.not_mem_intercalate (by decide) fun name among =>
      (plain name among).plain ')' (by decide)
  obtain ⟨inner, rest⟩ := Clause.first_cut_unique (closing columns plain_columns)
    (closing others plain_others) (List.cons.inj rest).2
  have same_columns : columns = others :=
    Clause.intercalate_injective (by decide) some_columns some_others
      (fun name among => (plain_columns name among).plain ',' (by decide))
      (fun name among => (plain_others name among).plain ',' (by decide))
      (String.toList_inj.1 inner)
  have same_groups : groups n columns.length = groups m others.length :=
    (String.append_right_inj " VALUES ").1 (String.toList_inj.1 rest)
  exact ⟨String.toList_inj.1 tables, same_columns, (groups_injective some_rows some_more
    (mt List.length_eq_zero_iff.1 some_columns) (mt List.length_eq_zero_iff.1 some_others)
    same_groups).1⟩

theorem rowCount?_eq_some_iff {rowCount : Value} {n : Nat} :
    rowCount? rowCount = some n ↔ rowCount = .int n ∧ 1 ≤ n := by
  constructor
  · intro counted
    unfold rowCount? at counted
    split at counted
    · next number =>
      split at counted
      · next some_rows =>
        cases counted
        exact ⟨by rw [Int.toNat_of_nonneg (by omega)], by omega⟩
      · cases counted
    · cases counted
  · rintro ⟨rfl, some_rows⟩
    rw [rowCount?, if_pos (by omega), Int.toNat_natCast]

end Statement

section

/-! ## Inserts in sessions -/

/-- An insert of rows with some columns; the number of rows is any value. -/
structure Insertion where
  /-- The table. -/
  table : String
  /-- The columns. -/
  columns : Columns
  /-- There are some. -/
  some_columns : columns.names ≠ []
  /-- The number of rows. -/
  rowCount : Value

variable [Machine]

namespace Insertion

open Statement (IsPlainName)

/-- The operation. -/
def operation (i : Insertion) : Build String :=
  Statement.insert (.str i.table) i.columns.toValue i.rowCount

/-- What the insert comes to in a session. -/
def outcome (i : Insertion) (session : Session) : Except Fault String :=
  (Session.work i.operation session).1

/-- The text of the insert of a number of rows. -/
def text (i : Insertion) (n : Nat) : String :=
  Statement.insertText (.str i.table) (",".intercalate i.columns.names)
    (Binding.group i.columns.names.length) n

/-- The table and the columns have no character that the text has for itself. -/
structure IsPlain (i : Insertion) : Prop where
  table : IsPlainName i.table
  columns : ∀ name ∈ i.columns.names, IsPlainName name

/-- In every session an insert comes to the same. -/
theorem outcome_eq (i : Insertion) (session : Session) :
    i.outcome session = (i.operation session.desk).1 := by
  rcases Session.endedBy_cases (Request.insert_ended i.table i.columns i.rowCount) session with
    ⟨_, same, _⟩ | ⟨⟨_, _, o, reached, _⟩, _⟩
  · exact same
  · cases reached

/-- A number of rows that is none is refused, if it has a text, and one that memory does not hold
fails. -/
theorem outcome_cases (i : Insertion) (session : Session) :
    (Statement.rowCount? i.rowCount = none ∧ i.outcome session = i.rowCount.written >>= fun _ =>
        .error (.invalidArgument (Statement.noRowCount i.rowCount))) ∨
      ∃ n, Statement.rowCount? i.rowCount = some n ∧
        (Statement.Fits i.table i.columns.names n ∧ i.outcome session = .ok (i.text n) ∨
          ¬ Statement.Fits i.table i.columns.names n ∧
            i.outcome session = .error (Statement.sizeFault n)) := by
  rw [outcome_eq, operation]
  rcases Request.insertRows_cases i.columns i.rowCount with
    ⟨none_there, _⟩ | ⟨no_count, refused⟩ | ⟨_, n, counted, accepted⟩
  · exact absurd none_there i.some_columns
  · refine Or.inl ⟨no_count, ?_⟩
    rw [Statement.insert, refused, Value.written]
    cases i.rowCount.limit? <;> rfl
  · refine Or.inr ⟨n, counted, ?_⟩
    have sized := i.columns.size_toValue
    have joined := i.columns.join_toValue ","
    by_cases fits : Statement.Fits i.table i.columns.names n
    · rw [Statement.insert_of_fits accepted sized joined session.desk fits]
      exact Or.inl ⟨fits, rfl⟩
    · rw [Statement.insert_of_not_fits accepted sized joined session.desk fits]
      exact Or.inr ⟨fits, rfl⟩

/-- The text of an insert that succeeds. -/
theorem of_ok {i : Insertion} {session : Session} {text : String}
    (inserted : i.outcome session = .ok text) : ∃ n : Nat, i.rowCount = .int n ∧ 1 ≤ n ∧
      Statement.Fits i.table i.columns.names n ∧ text = i.text n := by
  rcases i.outcome_cases session with ⟨_, refused⟩ | ⟨n, counted, ⟨fits, built⟩ | ⟨_, failed⟩⟩
  · rw [inserted] at refused
    obtain ⟨_, _, refused⟩ := bind_eq_ok_iff.1 refused.symm
    cases refused
  · obtain ⟨count, some_rows⟩ := Statement.rowCount?_eq_some_iff.1 counted
    exact ⟨n, count, some_rows, fits, Except.ok.inj (inserted.symm.trans built)⟩
  · cases inserted.symm.trans failed

/-- What an insert comes to with a number of rows. -/
theorem of_rowCount {i : Insertion} (session : Session) {n : Nat} (count : i.rowCount = .int n)
    (some_rows : 1 ≤ n) :
    Statement.Fits i.table i.columns.names n ∧ i.outcome session = .ok (i.text n) ∨
      ¬ Statement.Fits i.table i.columns.names n ∧
        i.outcome session = .error (Statement.sizeFault n) := by
  have counted := Statement.rowCount?_eq_some_iff.2 ⟨count, some_rows⟩
  rcases i.outcome_cases session with ⟨no_count, _⟩ | ⟨m, counted_too, comes⟩
  · cases counted.symm.trans no_count
  · obtain rfl : n = m := Option.some.inj (counted.symm.trans counted_too)
    exact comes

omit [Machine] in
/-- Plain inserts are read back from their texts. -/
theorem text_injective {i other : Insertion} (plain : i.IsPlain) (plain_other : other.IsPlain)
    {n m : Nat} (some_rows : 1 ≤ n) (some_more : 1 ≤ m) (same : i.text n = other.text m) :
    i.table = other.table ∧ i.columns.names = other.columns.names ∧ n = m :=
  Statement.insertText_injective plain.table plain_other.table plain.columns plain_other.columns
    i.some_columns other.some_columns (Nat.ne_of_gt some_rows) (Nat.ne_of_gt some_more) same

end Insertion

namespace Session

end Session

end

/-- An insert of a number of rows into a table. -/
def Insertion.into (columns : Columns) (some_columns : columns.names ≠ []) (rowCount : Int) :
    Insertion := ⟨"t", columns, some_columns, .int rowCount⟩

namespace Session

theorem isPlain_pairs (columns : Columns) (named : columns.names = ["a", "b"]) (rowCount : Int) :
    (Insertion.into columns (by rw [named]; exact List.cons_ne_nil _ _) rowCount).IsPlain where
  table := show Statement.IsPlainName "t" from ⟨by decide, by simp⟩
  columns := by
    show ∀ name ∈ columns.names, Statement.IsPlainName name
    rw [named]
    exact List.forall_mem_cons.2 ⟨⟨by decide, by simp⟩,
      List.forall_mem_singleton.2 ⟨by decide, by simp⟩⟩

end Session

end SqlAssembly
