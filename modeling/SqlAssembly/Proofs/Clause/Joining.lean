import SqlAssembly.Clause

/-!
# Joining fragments

Fragments are joined with single spaces, and an empty one leaves no trace.  So
it does not matter whether fragments are joined at once or in groups
(`joined_map_joined`), and joining adds no space where none belongs: what is
joined from *neat* fragments is neat (`neat_joined`).

A *word* is a text that is not empty and has no space.  Words are read back from
the text that they are joined to (`joined_injective`).
-/

namespace SqlAssembly.Clause

/-! ## At once or in groups -/

theorem joined_cons_of_ne_empty {fragment : String} (not_empty : fragment ≠ "")
    (rest : List String) :
    joined (fragment :: rest) =
      if joined rest = "" then fragment else fragment ++ " " ++ joined rest := by
  rw [joined, List.filter_cons_of_pos (by simpa using not_empty)]
  cases others : rest.filter (fun fragment => !fragment.isEmpty) with
  | nil => simp [joined, others]
  | cons next more =>
    have next_kept : next ∈ rest.filter (fun fragment => !fragment.isEmpty) := by simp [others]
    have next_not_empty : next ≠ "" := by simpa using (List.mem_filter.1 next_kept).2
    have not_empty_rest : joined rest ≠ "" := by
      rw [joined, others]
      cases more <;> simp [String.append_eq_empty_iff, next_not_empty]
    rw [if_neg not_empty_rest, joined, others, String.intercalate_cons_cons]

/-- A text joined alone stays as it is. -/
theorem joined_singleton (fragment : String) : joined [fragment] = fragment := by
  by_cases empty : fragment = ""
  · subst empty
    rfl
  · rw [joined_cons_of_ne_empty empty, joined_nil, if_pos rfl]

theorem joined_append (first second : List String) :
    joined (first ++ second) = joined [joined first, joined second] := by
  induction first with
  | nil => rw [List.nil_append, joined_nil, joined_cons_empty, joined_singleton]
  | cons fragment rest ih =>
    by_cases empty : fragment = ""
    · subst empty
      rw [List.cons_append, joined_cons_empty, joined_cons_empty, ih]
    · rw [List.cons_append, joined_cons_of_ne_empty empty, ih, joined_cons_of_ne_empty empty rest]
      by_cases no_rest : joined rest = ""
      · rw [no_rest, joined_cons_empty, joined_singleton, if_pos rfl,
          joined_cons_of_ne_empty empty, joined_singleton]
      · have not_empty : fragment ++ " " ++ joined rest ≠ "" := by
          simp [String.append_eq_empty_iff, empty]
        rw [if_neg no_rest, joined_cons_of_ne_empty no_rest, joined_singleton,
          joined_cons_of_ne_empty not_empty, joined_singleton]
        by_cases no_second : joined second = ""
        · rw [if_pos no_second, if_neg no_rest, if_pos no_second]
        · have not_empty_rest : joined rest ++ " " ++ joined second ≠ "" := by
            simp [String.append_eq_empty_iff, no_rest]
          rw [if_neg no_second, if_neg not_empty_rest, if_neg no_second]
          simp only [String.append_assoc]

/-- The last fragments may have been joined before. -/
theorem joined_append_joined (first last : List String) :
    joined (first ++ [joined last]) = joined (first ++ last) := by
  rw [joined_append, joined_singleton, ← joined_append]

/-- Joining groups of fragments, each already joined, is joining all of them. -/
theorem joined_map_joined (groups : List (List String)) :
    joined (groups.map joined) = joined groups.flatten := by
  induction groups with
  | nil => rfl
  | cons group rest ih =>
    rw [List.map_cons, ← List.singleton_append, joined_append, joined_singleton, ih,
      List.flatten_cons, joined_append group]

/-! ## Characters -/

theorem not_mem_append {c : Char} {s t : String} (not_first : c ∉ s.toList)
    (not_second : c ∉ t.toList) : c ∉ (s ++ t).toList := by
  rw [String.toList_append, List.mem_append, not_or]
  exact ⟨not_first, not_second⟩

/-- A character comes into joined texts with one of them or with the separator. -/
theorem not_mem_intercalate {c : Char} {separator : String} (not_separator : c ∉ separator.toList) :
    ∀ {parts : List String}, (∀ part ∈ parts, c ∉ part.toList) →
      c ∉ (separator.intercalate parts).toList
  | [], _ => by simp
  | [part], absent => by simpa using absent part List.mem_cons_self
  | part :: next :: rest, absent => by
      have later := not_mem_intercalate not_separator fun other among =>
        absent other (List.mem_cons_of_mem part among)
      rw [String.intercalate_cons_cons]
      exact not_mem_append (not_mem_append (absent part List.mem_cons_self) not_separator) later

theorem not_mem_joined {c : Char} (not_space : c ≠ ' ') {fragments : List String}
    (absent : ∀ fragment ∈ fragments, c ∉ fragment.toList) : c ∉ (joined fragments).toList := by
  apply not_mem_intercalate
  · simpa using not_space
  · intro fragment among
    exact absent fragment (List.mem_filter.1 among).1

/-- A text is cut in one way only where a character first is. -/
theorem first_cut_unique {c : Char} {before start after finish : List Char} (first : c ∉ before)
    (first_too : c ∉ start) (same : before ++ c :: after = start ++ c :: finish) :
    before = start ∧ after = finish := by
  rcases List.append_eq_append_iff.1 same with ⟨between, rfl, beyond⟩ | ⟨between, rfl, beyond⟩
  · cases between with
    | nil => exact ⟨(List.append_nil _).symm, (List.cons.inj beyond).2⟩
    | cons d between =>
      obtain ⟨rfl, _⟩ := List.cons.inj beyond
      exact absurd (by simp) first_too
  · cases between with
    | nil => exact ⟨List.append_nil _, (List.cons.inj beyond).2.symm⟩
    | cons d between =>
      obtain ⟨rfl, _⟩ := List.cons.inj beyond
      exact absurd (by simp) first

/-! ## Digits -/

/-- The digits of a number have no other character among them. -/
theorem not_mem_repr {c : Char} (not_digit : c.isDigit = false) (n : Nat) : c ∉ n.repr.toList := by
  intro among
  rw [Nat.toList_repr] at among
  have digit := Nat.isDigit_of_mem_toDigits (by decide) (by decide) among
  rw [not_digit] at digit
  cases digit

/-- A number is read back from its digits. -/
theorem repr_injective {n m : Nat} (same : n.repr = m.repr) : n = m := by
  have digits := congrArg (fun s => Nat.ofDigitChars 10 s.toList 0) same
  simpa only [Nat.toList_repr, Nat.ofDigitChars_ten_toDigits] using digits

/-! ## Neat texts -/

/-- A text without a space at its ends and without two spaces in a row. -/
structure Neat (s : String) : Prop where
  /-- It does not begin with a space. -/
  start : s.toList.head? ≠ some ' '
  /-- It does not end with a space. -/
  stop : s.toList.getLast? ≠ some ' '
  /-- It has no two spaces in a row. -/
  single : ¬ [' ', ' '] <:+: s.toList

theorem neat_empty : Neat "" := by
  constructor <;> simp

theorem neat_of_no_space {s : String} (no_space : ' ' ∉ s.toList) : Neat s := by
  refine ⟨?_, ?_, ?_⟩
  · intro first
    exact no_space (List.mem_of_head? first)
  · intro last
    exact no_space (List.mem_of_getLast? last)
  · intro twice
    exact no_space (twice.subset (by simp))

/-- Two spaces in a row do not arise where a single one is put between neat texts. -/
theorem Neat.append_space {s t : String} (hs : Neat s) (ht : Neat t) (s_not_empty : s ≠ "")
    (t_not_empty : t ≠ "") : Neat (s ++ " " ++ t) := by
  obtain ⟨c, cs, s_text⟩ := List.exists_cons_of_ne_nil (mt String.toList_eq_nil_iff.1 s_not_empty)
  obtain ⟨d, ds, t_text⟩ := List.exists_cons_of_ne_nil (mt String.toList_eq_nil_iff.1 t_not_empty)
  have text : (s ++ " " ++ t).toList = s.toList ++ ' ' :: t.toList := by simp
  refine ⟨?_, ?_, ?_⟩
  · have start := hs.start
    rw [s_text] at start
    rw [text, s_text]
    exact start
  · have stop := ht.stop
    rw [t_text] at stop
    rw [text, t_text, List.getLast?_append, List.getLast?_cons_cons]
    cases last : (d :: ds).getLast? with
    | none => simp at last
    | some e =>
      rw [last] at stop
      exact stop
  · rw [text]
    rintro ⟨before, after, twice⟩
    rw [List.append_assoc, List.append_eq_append_iff] at twice
    rcases twice with ⟨rest, within, beyond⟩ | ⟨rest, within, beyond⟩
    · -- The two spaces begin in the first text: both are in it, or it ends with one of them, or
      -- the second text begins with the other.
      rcases rest with _ | ⟨first, _ | ⟨second, rest⟩⟩
      · simp only [List.nil_append, List.cons_append, List.cons.injEq, true_and] at beyond
        exact ht.start (by rw [← beyond, List.head?_cons])
      · simp only [List.cons_append, List.nil_append, List.cons.injEq] at beyond
        exact hs.stop (by rw [within, ← beyond.1, List.getLast?_concat])
      · simp only [List.cons_append, List.nil_append, List.cons.injEq] at beyond
        obtain ⟨rfl, rfl, _⟩ := beyond
        exact hs.single ⟨before, rest, by rw [within, List.append_assoc]; rfl⟩
    · -- They begin with the space in between or in the second text.
      rcases rest with _ | ⟨first, rest⟩
      · simp only [List.nil_append, List.cons_append, List.cons.injEq, true_and] at beyond
        exact ht.start (by rw [beyond, List.head?_cons])
      · simp only [List.cons_append, List.cons.injEq] at beyond
        exact ht.single ⟨rest, after, by rw [beyond.2, List.append_assoc]; rfl⟩

theorem neat_joined {fragments : List String}
    (neat : ∀ fragment ∈ fragments, fragment ≠ "" → Neat fragment) : Neat (joined fragments) := by
  induction fragments with
  | nil => exact neat_empty
  | cons fragment rest ih =>
    have rest_neat := ih fun f among => neat f (List.mem_cons_of_mem _ among)
    by_cases empty : fragment = ""
    · rw [empty, joined_cons_empty]
      exact rest_neat
    · have first_neat := neat fragment List.mem_cons_self empty
      rw [joined_cons_of_ne_empty empty]
      split
      · exact first_neat
      · next not_empty => exact first_neat.append_space rest_neat empty not_empty

/-! ## Words -/

/-- A text that is not empty and has no space. -/
def IsWord (s : String) : Prop := s ≠ "" ∧ ' ' ∉ s.toList

theorem isWord_repr (n : Nat) : IsWord n.repr := ⟨Nat.repr_ne_empty, not_mem_repr (by decide) n⟩

theorem joined_of_words {words : List String} (are_words : ∀ w ∈ words, IsWord w) :
    joined words = " ".intercalate words := by
  rw [joined, List.filter_eq_self.2]
  intro w among
  simpa using (are_words w among).1

theorem neat_joined_words {words : List String} (are_words : ∀ w ∈ words, IsWord w) :
    Neat (joined words) :=
  neat_joined fun w among _ => neat_of_no_space (are_words w among).2

theorem intercalate_ne_empty {separator : String} {parts : List String} (some_parts : parts ≠ [])
    (not_empty : ∀ part ∈ parts, part ≠ "") : separator.intercalate parts ≠ "" := by
  match parts with
  | [] => exact absurd rfl some_parts
  | [part] =>
    rw [String.intercalate_singleton]
    exact not_empty part List.mem_cons_self
  | part :: next :: rest =>
    have first := not_empty part List.mem_cons_self
    simp [String.intercalate_cons_cons, String.append_eq_empty_iff, first]

theorem joined_words_ne_empty {words : List String} (are_words : ∀ w ∈ words, IsWord w)
    (some_words : words ≠ []) : joined words ≠ "" := by
  rw [joined_of_words are_words]
  exact intercalate_ne_empty some_words fun w among => (are_words w among).1

/-- Words with a separator that has no space are one word. -/
theorem isWord_intercalate {separator : String} (no_space : ' ' ∉ separator.toList)
    {words : List String} (some_words : words ≠ []) (are_words : ∀ w ∈ words, IsWord w) :
    IsWord (separator.intercalate words) :=
  ⟨intercalate_ne_empty some_words fun w among => (are_words w among).1,
    not_mem_intercalate no_space fun w among => (are_words w among).2⟩

/-- Texts without the separating character are read back from what is made of them. -/
theorem intercalate_injective {separator : String} {c : Char} (single : separator.toList = [c])
    {parts others : List String} (some_parts : parts ≠ []) (some_others : others ≠ [])
    (parts_lack : ∀ part ∈ parts, c ∉ part.toList) (others_lack : ∀ part ∈ others, c ∉ part.toList)
    (same : separator.intercalate parts = separator.intercalate others) : parts = others := by
  have read {texts : List String} (some_texts : texts ≠ []) (lack : ∀ s ∈ texts, c ∉ s.toList) :
      (separator.intercalate texts).toList.splitOn c = texts.map String.toList := by
    rw [String.toList_intercalate, single]
    apply List.splitOn_intercalate
    · intro characters among
      obtain ⟨s, text, rfl⟩ := List.mem_map.1 among
      exact lack s text
    · simpa using some_texts
  have characters : parts.map String.toList = others.map String.toList := by
    rw [← read some_parts parts_lack, ← read some_others others_lack, same]
  exact (List.map_inj_right fun _ _ equal => String.toList_inj.1 equal).1 characters

/-- Words are read back from what they are joined to. -/
theorem joined_injective {words others : List String} (are_words : ∀ w ∈ words, IsWord w)
    (others_are_words : ∀ w ∈ others, IsWord w) (same : joined words = joined others) :
    words = others := by
  by_cases no_words : words = []
  · by_cases no_others : others = []
    · rw [no_words, no_others]
    · rw [no_words, joined_nil] at same
      exact absurd same.symm (joined_words_ne_empty others_are_words no_others)
  · by_cases no_others : others = []
    · rw [no_others, joined_nil] at same
      exact absurd same (joined_words_ne_empty are_words no_words)
    · rw [joined_of_words are_words, joined_of_words others_are_words] at same
      exact intercalate_injective (by decide) no_words no_others
        (fun w among => (are_words w among).2) (fun w among => (others_are_words w among).2) same

end SqlAssembly.Clause
