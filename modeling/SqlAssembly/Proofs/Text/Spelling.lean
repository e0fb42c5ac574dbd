import Mathlib.Data.List.TakeWhile
import SqlAssembly.Text.Path

/-!
# Spellings of paths

A text writes a path by its slashes.  Those at its start say where the path
starts, and what stands between slashes are its components, of which the empty
ones and the single points do not count.  Nothing else of the text matters
(`Path.ofString_eq`), so that texts with the same slashes at the start and the
same components are spellings of one path.

A path that starts at a root and has parts as reading produces them is in
*normal form*: its text has no component that does not count, it ends with a
slash only if it is a root, and reading it gives the path back
(`Path.InNormalForm`).
-/

namespace SqlAssembly.Path

/-! ## Texts -/

/-- Where a text starts: at no root without a slash, at a root of its own with exactly two of them,
and at the root with any other number. -/
def leadingRoot (text : String) : PathRoot :=
  match (text.toList.takeWhile (· == '/')).length with
  | 0 => .relative
  | 2 => .double
  | _ => .single

/-- What stands between the slashes of a text, without what is empty and single points. -/
def components (text : String) : List String :=
  ((text.toList.splitOn '/').map String.ofList).filter fun name => name ≠ "" ∧ name ≠ "."

theorem pieces_eq_splitOn (cs : List Char) : pieces cs = cs.splitOn '/' := by
  induction cs with
  | nil => rfl
  | cons c cs ih =>
    obtain ⟨piece, more, split⟩ := List.exists_cons_of_ne_nil (pieces_ne_nil cs)
    have rest : cs.splitOnP (· == '/') = piece :: more := by rw [← split, ih]; rfl
    rw [pieces, split, List.splitOn, List.splitOnP_cons_eq_if_modifyHead, rest]
    by_cases slash : c = '/' <;> simp [slash]

/-- No slash is at the start of a text that is not a slash and a rest. -/
theorem takeWhile_slash_eq_nil {cs : List Char} (other : ∀ rest, cs ≠ '/' :: rest) :
    cs.takeWhile (· == '/') = [] := by
  cases cs with
  | nil => rfl
  | cons c rest =>
    refine List.takeWhile_cons_of_neg ?_
    simpa using fun slash => other rest (by rw [slash])

theorem readRoot_eq_leadingRoot (text : String) : readRoot text.toList = leadingRoot text := by
  rw [leadingRoot]
  generalize text.toList = cs
  unfold readRoot
  split
  case h_1 => simp
  case h_2 rest not_third => simp [takeWhile_slash_eq_nil not_third]
  case h_3 rest _ not_second => simp [takeWhile_slash_eq_nil not_second]
  case h_4 _ _ not_first => simp [takeWhile_slash_eq_nil not_first]

/-- Reading a text looks at its slashes and at its components, and at nothing else. -/
theorem ofString_eq (text : String) : ofString text = ⟨leadingRoot text, components text⟩ := by
  have parts : (fun name : String => decide (name ≠ "" ∧ name ≠ ".")) ∘ String.ofList = isPart := by
    funext piece
    have empty : String.ofList piece = "" ↔ piece = [] := String.ofList_inj
    have point : String.ofList piece = "." ↔ piece = ['.'] := String.ofList_inj
    rw [Bool.eq_iff_iff]
    simp only [Function.comp_apply, isPart, decide_eq_true_iff, Bool.and_eq_true, bne_iff_ne,
      ne_eq, empty, point]
  rw [ofString, readRoot_eq_leadingRoot, pieces_eq_splitOn, components, List.filter_map, parts]

theorem components_eq (text : String) : components text = (ofString text).parts := by
  rw [ofString_eq]

/-! ## Slashes at the end -/

theorem pieces_append (cs rest : List Char) :
    pieces (cs ++ '/' :: rest) = pieces cs ++ pieces rest := by
  induction cs with
  | nil => simp [pieces]
  | cons c cs ih =>
    obtain ⟨piece, more, split⟩ := List.exists_cons_of_ne_nil (pieces_ne_nil cs)
    by_cases slash : c = '/' <;> simp [pieces, slash, ih, split]

/-- Slashes at the end of a text add no component. -/
theorem components_append {slashes : String} (only : ∀ c ∈ slashes.toList, c = '/')
    (text : String) : components (text ++ slashes) = components text := by
  have no_part : ∀ cs : List Char, (∀ c ∈ cs, c = '/') → (pieces cs).filter isPart = [] := by
    intro cs only
    induction cs with
    | nil => rfl
    | cons c cs ih =>
      obtain ⟨rfl, later⟩ := List.forall_mem_cons.1 only
      simpa [pieces, isPart] using ih later
  rw [components_eq, components_eq, ofString, ofString, String.toList_append]
  cases split : slashes.toList with
  | nil => rw [List.append_nil]
  | cons c rest =>
    rw [split] at only
    obtain ⟨rfl, later⟩ := List.forall_mem_cons.1 only
    simp only [pieces_append, List.filter_append, no_part rest later, List.append_nil]

/-- Neither do they change where it starts, if it has anything but slashes. -/
theorem leadingRoot_append {text : String} (other : ∃ c ∈ text.toList, c ≠ '/') (slashes : String) :
    leadingRoot (text ++ slashes) = leadingRoot text := by
  obtain ⟨c, among, not_slash⟩ := other
  have not_all : (text.toList.takeWhile (· == '/')).length ≠ text.toList.length := by
    intro same
    have all := List.takeWhile_eq_self_iff.1 ((List.takeWhile_prefix _).eq_of_length same)
    exact not_slash (by simpa using all c among)
  rw [leadingRoot, leadingRoot, String.toList_append, List.takeWhile_append, if_neg not_all]

/-! ## Normal form -/

/-- A path in normal form, as its text shows it. -/
structure InNormalForm (p : Path) : Prop where
  /-- It starts at a root. -/
  absolute : p.isAbsolute = true
  /-- Its parts have no slash, and none of them is empty or a single point. -/
  parts : ∀ name ∈ p.parts, name ≠ "" ∧ name ≠ "." ∧ '/' ∉ name.toList
  /-- Its text is its root and its parts with slashes between them. -/
  text : p.toString = String.ofList (rootText p.root) ++ "/".intercalate p.parts
  /-- Its text ends with a slash only if it is a root. -/
  no_slash : p.toString.toList.getLast? = some '/' → p.parts = []
  /-- Reading its text gives it back. -/
  again : ofString p.toString = p

/-- Joined names end as the last of them does. -/
theorem getLast?_intercalate : ∀ {names : List String}, names ≠ [] →
    (∀ name ∈ names, name ≠ "") → ∃ name ∈ names,
      ("/".intercalate names).toList.getLast? = name.toList.getLast?
  | [name], _, _ => ⟨name, List.mem_cons_self, by rw [String.intercalate_singleton]⟩
  | name :: next :: rest, _, not_empty => by
      obtain ⟨last, among, ends⟩ := getLast?_intercalate (List.cons_ne_nil next rest)
        fun other later => not_empty other (List.mem_cons_of_mem name later)
      refine ⟨last, List.mem_cons_of_mem name among, ?_⟩
      have some_last : (last.toList.getLast?).isSome = true := by
        simpa using not_empty last (List.mem_cons_of_mem name among)
      obtain ⟨c, is_last⟩ := Option.isSome_iff_exists.1 some_last
      rw [String.intercalate_cons_cons, String.toList_append, List.getLast?_append, ends, is_last]
      rfl

theorem inNormalForm {p : Path} (absolute : p.isAbsolute = true) (normal : p.Normal) :
    p.InNormalForm := by
  have parts : ∀ name ∈ p.parts, name ≠ "" ∧ name ≠ "." ∧ '/' ∉ name.toList := by
    intro name among
    obtain ⟨not_empty, not_point, no_slash⟩ := normal name among
    exact ⟨by rintro rfl; exact not_empty rfl, by rintro rfl; exact not_point rfl, no_slash⟩
  have text : p.toString = String.ofList (rootText p.root) ++ "/".intercalate p.parts := by
    refine if_neg ?_
    rintro ⟨relative, _⟩
    rw [isAbsolute, relative] at absolute
    cases absolute
  refine ⟨absolute, parts, text, fun slash => ?_, ofString_toString normal⟩
  by_contra some_parts
  obtain ⟨name, among, ends⟩ :=
    getLast?_intercalate some_parts fun name among => (parts name among).1
  have some_last : name.toList.getLast? ≠ none := by simpa using (parts name among).1
  rw [text, String.toList_append, List.getLast?_append, ends] at slash
  cases last : name.toList.getLast? with
  | none => exact some_last last
  | some c =>
    rw [last] at slash
    cases slash
    exact (parts name among).2.2 (List.mem_of_getLast? last)

end SqlAssembly.Path
