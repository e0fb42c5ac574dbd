import SqlAssembly.Proofs.Statement.Call

/-!
# Outlines

The *outline* of a statement is all that its text says: what it does, to which
table and columns, in which order, and to how many rows.  It is written in words
(`Outline.words`).  The words of a column of a condition, of an ordering or of a
window may also be columns, so what a word means depends on where it stands.

An outline is *clean* if its names hold no character that the text around them
is made of.  The words of a clean outline are texts without spaces, and the
outline is read back from them (`Outline.words_injective`).  Each part is read
off the front of the words, whatever comes after it, as far as that cannot be
taken for more of the part.
-/

namespace SqlAssembly

/-- A name that cannot be taken for more than one, nor for anything else in a statement. -/
def CleanName (s : String) : Prop :=
  s ≠ "" ∧ ∀ c ∈ s.toList, c ∉ [' ', ',', '=', '?', '(', ')', '*']

/-- A token that cannot be taken for more than one. -/
def CleanToken (s : String) : Prop := s ≠ "" ∧ ∀ c ∈ s.toList, c ∉ [' ', ',']

instance (s : String) : Decidable (CleanName s) :=
  decidable_of_iff
    (s ≠ "" ∧ (s.toList.all fun c => !List.contains [' ', ',', '=', '?', '(', ')', '*'] c) = true)
    (by simp only [CleanName, List.all_eq_true, Bool.not_eq_true', List.contains_eq_mem,
      decide_eq_false_iff_not])

instance (s : String) : Decidable (CleanToken s) :=
  decidable_of_iff (s ≠ "" ∧ (s.toList.all fun c => !List.contains [' ', ','] c) = true)
    (by simp only [CleanToken, List.all_eq_true, Bool.not_eq_true', List.contains_eq_mem,
      decide_eq_false_iff_not])

theorem CleanName.not_mem {s : String} (clean : CleanName s) {c : Char}
    (excluded : c ∈ [' ', ',', '=', '?', '(', ')', '*']) : c ∉ s.toList := fun among =>
  clean.2 c among excluded

theorem CleanToken.not_mem {s : String} (clean : CleanToken s) {c : Char}
    (excluded : c ∈ [' ', ',']) : c ∉ s.toList := fun among => clean.2 c among excluded

theorem CleanName.isWord {s : String} (clean : CleanName s) : Clause.IsWord s :=
  ⟨clean.1, clean.not_mem (by decide)⟩

theorem CleanToken.isWord {s : String} (clean : CleanToken s) : Clause.IsWord s :=
  ⟨clean.1, clean.not_mem (by decide)⟩

/-- What a statement says. -/
structure Outline where
  /-- What it does. -/
  verb : Verb
  /-- The table. -/
  table : String
  /-- The columns of its condition. -/
  criteria : List String
  /-- The columns that get new values. -/
  updates : List String
  /-- The columns to return; all of them if none are there. -/
  selected : List String
  /-- The columns to order by, each with the token of its direction. -/
  ordered : List (String × String)
  /-- How many rows at most and, with that, how many to leave out first. -/
  window : Option (Nat × Option Nat)
  deriving DecidableEq, Repr

namespace Outline

/-! ## Words -/

/-- The word for the columns to return. -/
def projectionWord (columns : List String) : String :=
  if columns.isEmpty then "*" else ",".intercalate columns

/-- The words that a statement begins with. -/
def headWords (o : Outline) : List String :=
  match o.verb with
  | .count => ["SELECT", "COUNT(*)", "AS", "counter", "FROM", o.table]
  | .find => ["SELECT", projectionWord o.selected, "FROM", o.table]
  | .update => ["UPDATE", o.table, "SET", Clause.assignmentsText o.updates]
  | .delete => ["DELETE", "FROM", o.table]

/-- The words of a condition. -/
def conditionWords : List String → List String
  | [] => ["WHERE", "1"]
  | column :: columns => "WHERE" :: ((column :: columns).map Clause.binding).intersperse "AND"

/-- The words of an ordering from a direction on: a comma joins it to the next column. -/
def tokenWords (token : String) : List (String × String) → List String
  | [] => [token]
  | (column, next) :: rest => (token ++ "," ++ column) :: tokenWords next rest

/-- The words of an ordering. -/
def orderWords : List (String × String) → List String
  | [] => []
  | (column, token) :: rest => "ORDER" :: "BY" :: column :: tokenWords token rest

/-- The words of a window. -/
def windowWords : Option (Nat × Option Nat) → List String
  | none => []
  | some (limit, none) => ["LIMIT", limit.repr]
  | some (limit, some offset) => ["LIMIT", limit.repr, "OFFSET", offset.repr]

/-- The words of a statement. -/
def words (o : Outline) : List String :=
  o.headWords ++ (conditionWords o.criteria ++ (orderWords o.ordered ++ windowWords o.window))

/-! ## Reading parts off the front -/

/-- What stands between separators is read off the front, unless a separator follows. -/
theorem intersperse_append_inj {separator : String} {x y : String} {xs ys rest others : List String}
    (rest_apart : rest.head? ≠ some separator) (others_apart : others.head? ≠ some separator)
    (same : (x :: xs).intersperse separator ++ rest = (y :: ys).intersperse separator ++ others) :
    x :: xs = y :: ys ∧ rest = others := by
  induction xs generalizing x y ys with
  | nil =>
    cases ys with
    | nil => simpa using same
    | cons next ys =>
      simp only [List.intersperse_singleton, List.intersperse_cons_cons, List.cons_append,
        List.nil_append, List.cons.injEq] at same
      exact absurd (by rw [same.2, List.head?_cons]) rest_apart
  | cons after xs ih =>
    cases ys with
    | nil =>
      simp only [List.intersperse_singleton, List.intersperse_cons_cons, List.cons_append,
        List.nil_append, List.cons.injEq] at same
      exact absurd (by rw [← same.2, List.head?_cons]) others_apart
    | cons next ys =>
      simp only [List.intersperse_cons_cons, List.cons_append, List.cons.injEq, true_and] at same
      obtain ⟨rfl, same⟩ := same
      obtain ⟨later, same_rest⟩ := ih same
      exact ⟨by rw [later], same_rest⟩

theorem binding_injective {column other : String}
    (same : Clause.binding column = Clause.binding other) : column = other :=
  String.append_left_inj _ |>.1 same

theorem binding_ne_one (column : String) : Clause.binding column ≠ "1" := by
  intro same
  have last := congrArg (fun s => s.toList.getLast?) same
  simp [Clause.binding] at last

/-- A condition on columns begins with the first of them. -/
theorem conditionWords_cons (column : String) (columns : List String) :
    ∃ rest, conditionWords (column :: columns) = "WHERE" :: Clause.binding column :: rest := by
  cases columns with
  | nil => exact ⟨[], rfl⟩
  | cons next columns => exact ⟨_, rfl⟩

theorem conditionWords_append_inj {columns others : List String} {rest more : List String}
    (rest_apart : rest.head? ≠ some "AND") (more_apart : more.head? ≠ some "AND")
    (same : conditionWords columns ++ rest = conditionWords others ++ more) :
    columns = others ∧ rest = more := by
  rcases columns with _ | ⟨column, columns⟩ <;> rcases others with _ | ⟨other, others⟩
  · simpa [conditionWords] using same
  · obtain ⟨_, words⟩ := conditionWords_cons other others
    rw [words] at same
    exact absurd (List.cons.inj (List.cons.inj same).2).1.symm (binding_ne_one other)
  · obtain ⟨_, words⟩ := conditionWords_cons column columns
    rw [words] at same
    exact absurd (List.cons.inj (List.cons.inj same).2).1 (binding_ne_one column)
  · simp only [conditionWords, List.cons_append, List.cons.injEq, true_and] at same
    obtain ⟨bindings, same_rest⟩ := intersperse_append_inj rest_apart more_apart same
    exact ⟨(List.map_inj_right fun _ _ => binding_injective).1 bindings, same_rest⟩

/-- A direction without a comma ends where a comma is, and the ordering with the first direction
that no comma ends. -/
theorem tokenWords_append_inj {token other : String} {entries others : List (String × String)}
    {rest more : List String} (token_lacks : ',' ∉ token.toList) (other_lacks : ',' ∉ other.toList)
    (entries_lack : ∀ entry ∈ entries, ',' ∉ entry.2.toList)
    (others_lack : ∀ entry ∈ others, ',' ∉ entry.2.toList)
    (same : tokenWords token entries ++ rest = tokenWords other others ++ more) :
    token = other ∧ entries = others ∧ rest = more := by
  induction entries generalizing token other others with
  | nil =>
    cases others with
    | nil => simpa [tokenWords] using same
    | cons entry others =>
      simp only [tokenWords, List.cons_append, List.cons.injEq] at same
      exact absurd (by simp [same.1]) token_lacks
  | cons entry entries ih =>
    obtain ⟨column, next⟩ := entry
    cases others with
    | nil =>
      simp only [tokenWords, List.cons_append, List.cons.injEq] at same
      exact absurd (by simp [← same.1]) other_lacks
    | cons entry others =>
      obtain ⟨column', next'⟩ := entry
      simp only [tokenWords, List.cons_append, List.cons.injEq] at same
      have first :
          token.toList ++ ',' :: column.toList = other.toList ++ ',' :: column'.toList := by
        simpa using congrArg String.toList same.1
      obtain ⟨same_token, same_column⟩ := Clause.first_cut_unique token_lacks other_lacks first
      obtain ⟨rfl, rfl, same_rest⟩ := ih (entries_lack _ List.mem_cons_self)
        (others_lack _ List.mem_cons_self)
        (fun entry among => entries_lack entry (List.mem_cons_of_mem _ among))
        (fun entry among => others_lack entry (List.mem_cons_of_mem _ among)) same.2
      refine ⟨String.toList_inj.1 same_token, ?_, same_rest⟩
      rw [String.toList_inj.1 same_column]

theorem windowWords_injective {window other : Option (Nat × Option Nat)}
    (same : windowWords window = windowWords other) : window = other := by
  rcases window with _ | ⟨limit, _ | offset⟩ <;> rcases other with _ | ⟨limit', _ | offset'⟩ <;>
    simp only [windowWords, List.cons.injEq, reduceCtorEq, and_false, true_and, and_true,
      List.nil_eq] at same
  · rfl
  · rw [Clause.repr_injective same]
  · rw [Clause.repr_injective same.1, Clause.repr_injective same.2]

/-- An ordering is read off the front, unless another one follows. -/
theorem orderWords_append_inj {entries others : List (String × String)} {rest more : List String}
    (rest_apart : rest.head? ≠ some "ORDER") (more_apart : more.head? ≠ some "ORDER")
    (entries_lack : ∀ entry ∈ entries, ',' ∉ entry.2.toList)
    (others_lack : ∀ entry ∈ others, ',' ∉ entry.2.toList)
    (same : orderWords entries ++ rest = orderWords others ++ more) :
    entries = others ∧ rest = more := by
  rcases entries with _ | ⟨entry, entries⟩ <;> rcases others with _ | ⟨other, others⟩
  · exact ⟨rfl, same⟩
  · rw [orderWords, List.nil_append] at same
    exact absurd (by rw [same]; rfl) rest_apart
  · rw [orderWords, List.nil_append] at same
    exact absurd (by rw [← same]; rfl) more_apart
  · simp only [orderWords, List.cons_append, List.cons.injEq, true_and] at same
    obtain ⟨same_column, same⟩ := same
    obtain ⟨same_token, rfl, rfl⟩ := tokenWords_append_inj (entries_lack _ List.mem_cons_self)
      (others_lack _ List.mem_cons_self)
      (fun entry among => entries_lack entry (List.mem_cons_of_mem _ among))
      (fun entry among => others_lack entry (List.mem_cons_of_mem _ among)) same
    exact ⟨by rw [Prod.ext same_column same_token], rfl⟩

/-! ## Clean outlines -/

/-- An outline whose names are clean.  It gives new values exactly if it is that of an update, and
only the outline of a find says which columns to return. -/
structure Clean (o : Outline) : Prop where
  table : CleanName o.table
  criteria : ∀ column ∈ o.criteria, CleanName column
  updates : ∀ column ∈ o.updates, CleanName column
  selected : ∀ column ∈ o.selected, CleanName column
  ordered : ∀ entry ∈ o.ordered, CleanName entry.1 ∧ CleanToken entry.2
  updating : o.verb = .update → o.updates ≠ []
  keeping : o.verb ≠ .update → o.updates = []
  selecting : o.verb ≠ .find → o.selected = []

theorem comma_not_mem_binding {column : String} (clean : CleanName column) :
    ',' ∉ (Clause.binding column).toList :=
  Clause.not_mem_append (clean.not_mem (by decide)) (by decide)

/-- New values of clean columns are read back from their text. -/
theorem assignmentsText_injective {columns others : List String} (some_columns : columns ≠ [])
    (some_others : others ≠ []) (clean : ∀ column ∈ columns, CleanName column)
    (others_clean : ∀ column ∈ others, CleanName column)
    (same : Clause.assignmentsText columns = Clause.assignmentsText others) : columns = others := by
  have lack {names : List String} (clean : ∀ name ∈ names, CleanName name) :
      ∀ part ∈ names.map Clause.binding, ',' ∉ part.toList := by
    intro part among
    obtain ⟨name, member, rfl⟩ := List.mem_map.1 among
    exact comma_not_mem_binding (clean name member)
  have bindings := Clause.intercalate_injective (by decide) (by simpa using some_columns)
    (by simpa using some_others) (lack clean) (lack others_clean) same
  exact (List.map_inj_right fun _ _ => binding_injective).1 bindings

/-- Clean columns to return are read back from their word. -/
theorem projectionWord_injective {columns others : List String}
    (clean : ∀ column ∈ columns, CleanName column)
    (others_clean : ∀ column ∈ others, CleanName column)
    (same : projectionWord columns = projectionWord others) : columns = others := by
  have starless {names : List String} (clean : ∀ name ∈ names, CleanName name) :
      "*" ≠ ",".intercalate names := by
    intro star
    have absent : '*' ∉ (",".intercalate names).toList :=
      Clause.not_mem_intercalate (by decide) fun name among =>
        (clean name among).not_mem (by decide)
    rw [← star] at absent
    exact absent (by decide)
  unfold projectionWord at same
  split at same <;> split at same
  · next none_here none_there => rw [List.isEmpty_iff.1 none_here, List.isEmpty_iff.1 none_there]
  · exact absurd same (starless others_clean)
  · exact absurd same.symm (starless clean)
  · next some_here some_there =>
    have comma : ",".toList = [','] := by decide
    exact Clause.intercalate_injective comma (by simpa using some_here)
      (by simpa using some_there) (fun name among => (clean name among).not_mem (by decide))
      (fun name among => (others_clean name among).not_mem (by decide)) same

/-- The words that a clean statement begins with are read off the front. -/
theorem headWords_append_inj {o other : Outline} (clean : o.Clean) (other_clean : other.Clean)
    {rest more : List String} (same : o.headWords ++ rest = other.headWords ++ more) :
    o.verb = other.verb ∧ o.table = other.table ∧ o.updates = other.updates ∧
      o.selected = other.selected ∧ rest = more := by
  -- No two verbs share the literal words around the names.
  cases verb : o.verb <;> cases other_verb : other.verb <;>
    simp only [headWords, verb, other_verb, List.cons_append, List.nil_append, List.cons.injEq,
      String.reduceEq, false_and, and_false, true_and] at same
  case count.count | delete.delete =>
    have updates := clean.keeping (by rw [verb]; decide)
    have other_updates := other_clean.keeping (by rw [other_verb]; decide)
    have selected := clean.selecting (by rw [verb]; decide)
    have other_selected := other_clean.selecting (by rw [other_verb]; decide)
    exact ⟨rfl, same.1, by rw [updates, other_updates], by rw [selected, other_selected], same.2⟩
  case find.find =>
    have updates := clean.keeping (by rw [verb]; decide)
    have other_updates := other_clean.keeping (by rw [other_verb]; decide)
    have selected := projectionWord_injective clean.selected other_clean.selected same.1
    exact ⟨rfl, same.2.1, by rw [updates, other_updates], selected, same.2.2⟩
  case update.update =>
    have updates := assignmentsText_injective (clean.updating verb)
      (other_clean.updating other_verb) clean.updates other_clean.updates same.2.1
    have selected := clean.selecting (by rw [verb]; decide)
    have other_selected := other_clean.selecting (by rw [other_verb]; decide)
    exact ⟨rfl, same.1, updates, by rw [selected, other_selected], same.2.2⟩

/-- A clean outline is read back from its words. -/
theorem words_injective {o other : Outline} (clean : o.Clean) (other_clean : other.Clean)
    (same : o.words = other.words) : o = other := by
  have ending_apart (p : Outline) :
      (orderWords p.ordered ++ windowWords p.window).head? ≠ some "AND" := by
    rcases p with ⟨_, _, _, _, _, _ | _, _ | ⟨_, _ | _⟩⟩ <;> simp [orderWords, windowWords]
  have window_apart (window : Option (Nat × Option Nat)) :
      (windowWords window).head? ≠ some "ORDER" := by
    rcases window with _ | ⟨_, _ | _⟩ <;> simp [windowWords]
  have lack {p : Outline} (p_clean : p.Clean) : ∀ entry ∈ p.ordered, ',' ∉ entry.2.toList :=
    fun entry among => (p_clean.ordered entry among).2.not_mem (by decide)
  obtain ⟨verb, table, updates, selected, same⟩ := headWords_append_inj clean other_clean same
  obtain ⟨criteria, same⟩ :=
    conditionWords_append_inj (ending_apart o) (ending_apart other) same
  obtain ⟨ordered, same⟩ := orderWords_append_inj (window_apart _) (window_apart _) (lack clean)
    (lack other_clean) same
  have window := windowWords_injective same
  cases o
  cases other
  cases verb
  cases table
  cases updates
  cases selected
  cases criteria
  cases ordered
  cases window
  rfl

/-! ## Words without spaces -/

theorem isWord_binding {column : String} (clean : CleanName column) :
    Clause.IsWord (Clause.binding column) := by
  constructor
  · simp [Clause.binding, String.append_eq_empty_iff]
  · exact Clause.not_mem_append (clean.not_mem (by decide)) (by decide)

theorem isWord_map_binding {columns : List String} (clean : ∀ column ∈ columns, CleanName column) :
    ∀ w ∈ columns.map Clause.binding, Clause.IsWord w := by
  intro w among
  obtain ⟨column, member, rfl⟩ := List.mem_map.1 among
  exact isWord_binding (clean column member)

theorem isWord_projectionWord {columns : List String}
    (clean : ∀ column ∈ columns, CleanName column) : Clause.IsWord (projectionWord columns) := by
  unfold projectionWord
  split
  · exact ⟨by decide, by decide⟩
  · next some_columns =>
    exact Clause.isWord_intercalate (by decide) (by simpa using some_columns) fun column among =>
      (clean column among).isWord

theorem isWord_headWords {o : Outline} (clean : o.Clean) : ∀ w ∈ o.headWords, Clause.IsWord w := by
  have table := clean.table.isWord
  have selected := isWord_projectionWord clean.selected
  have literal (s : String) (no_space : s ≠ "" ∧ ' ' ∉ s.toList) : Clause.IsWord s := no_space
  unfold headWords
  cases verb : o.verb with
  | count => simp [table, literal]
  | find => simp [table, selected, literal]
  | update =>
    have assignments : Clause.IsWord (Clause.assignmentsText o.updates) :=
      Clause.isWord_intercalate (by decide) (by simpa using clean.updating verb)
        (isWord_map_binding clean.updates)
    simp [table, assignments, literal]
  | delete => simp [table, literal]

theorem mem_intersperse {separator w : String} : ∀ {words : List String},
    w ∈ words.intersperse separator → w = separator ∨ w ∈ words
  | [], among => Or.inr among
  | [word], among => Or.inr among
  | word :: next :: rest, among => by
      rw [List.intersperse_cons_cons, List.mem_cons, List.mem_cons] at among
      rcases among with rfl | rfl | later
      · exact Or.inr List.mem_cons_self
      · exact Or.inl rfl
      · exact (mem_intersperse later).imp_right (List.mem_cons_of_mem _)

theorem isWord_conditionWords {columns : List String}
    (clean : ∀ column ∈ columns, CleanName column) :
    ∀ w ∈ conditionWords columns, Clause.IsWord w := by
  intro w among
  cases columns with
  | nil =>
    rcases List.mem_cons.1 among with rfl | among
    · exact ⟨by decide, by decide⟩
    · rw [List.mem_singleton.1 among]
      exact ⟨by decide, by decide⟩
  | cons column columns =>
    rcases List.mem_cons.1 among with rfl | among
    · exact ⟨by decide, by decide⟩
    · rcases mem_intersperse among with rfl | among
      · exact ⟨by decide, by decide⟩
      · exact isWord_map_binding clean w among

theorem isWord_tokenWords {token : String} {entries : List (String × String)}
    (clean : CleanToken token)
    (entries_clean : ∀ entry ∈ entries, CleanName entry.1 ∧ CleanToken entry.2) :
    ∀ w ∈ tokenWords token entries, Clause.IsWord w := by
  induction entries generalizing token with
  | nil =>
    intro w among
    rw [List.mem_singleton.1 among]
    exact clean.isWord
  | cons entry entries ih =>
    obtain ⟨column_clean, next_clean⟩ := entries_clean entry List.mem_cons_self
    intro w among
    rcases List.mem_cons.1 among with rfl | among
    · constructor
      · simp [String.append_eq_empty_iff]
      · simp [clean.isWord.2, column_clean.isWord.2]
    · exact ih next_clean (fun other later => entries_clean other (List.mem_cons_of_mem _ later)) w
        among

theorem isWord_orderWords {entries : List (String × String)}
    (clean : ∀ entry ∈ entries, CleanName entry.1 ∧ CleanToken entry.2) :
    ∀ w ∈ orderWords entries, Clause.IsWord w := by
  intro w among
  cases entries with
  | nil => exact absurd among List.not_mem_nil
  | cons entry entries =>
    obtain ⟨column_clean, token_clean⟩ := clean entry List.mem_cons_self
    rcases List.mem_cons.1 among with rfl | among
    · exact ⟨by decide, by decide⟩
    · rcases List.mem_cons.1 among with rfl | among
      · exact ⟨by decide, by decide⟩
      · rcases List.mem_cons.1 among with rfl | among
        · exact column_clean.isWord
        · exact isWord_tokenWords token_clean
            (fun other later => clean other (List.mem_cons_of_mem _ later)) w among

theorem isWord_windowWords (window : Option (Nat × Option Nat)) :
    ∀ w ∈ windowWords window, Clause.IsWord w := by
  have limiting : Clause.IsWord "LIMIT" := ⟨by decide, by decide⟩
  have skipping : Clause.IsWord "OFFSET" := ⟨by decide, by decide⟩
  rcases window with _ | ⟨limit, _ | offset⟩
  · simp [windowWords]
  · simp [windowWords, limiting, Clause.isWord_repr]
  · simp [windowWords, limiting, skipping, Clause.isWord_repr]

/-- The words of a clean outline are not empty and have no spaces. -/
theorem isWord_words {o : Outline} (clean : o.Clean) : ∀ w ∈ o.words, Clause.IsWord w := by
  intro w among
  simp only [words, List.mem_append] at among
  rcases among with in_head | in_condition | in_order | in_window
  · exact isWord_headWords clean w in_head
  · exact isWord_conditionWords clean.criteria w in_condition
  · exact isWord_orderWords clean.ordered w in_order
  · exact isWord_windowWords o.window w in_window

end Outline

end SqlAssembly
