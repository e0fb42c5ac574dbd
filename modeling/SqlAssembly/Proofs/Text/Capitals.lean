import Mathlib
import SqlAssembly.Text.Uppercase

/-!
# What is written with some capitals in upper case

The capitals `A`, `C`, `D`, `E` and `S` belong to their seven-bit letters, and
`S` also belongs to the long s (`upperChar_eq_singleton_iff`).  Letters with a
longer capital play no part in words without a double s: one of the characters
of such a capital is always another one.

So the texts that come to such a word in upper case are those that come to it
with seven-bit capitals alone, once every long s is written as an s
(`upper_eq_iff`).
-/

namespace SqlAssembly.Text

/-- The letters that are read back from their capitals. -/
def keyLetters : List Char := ['A', 'C', 'D', 'E', 'S']

/-- A long s as an s. -/
def shortChar (c : Char) : Char := if c = 'ſ' then 's' else c

/-- A text with an s for every long s. -/
def shortened (s : String) : String := s.map shortChar

/-! ## Tables -/

/-- Of the letters with a capital of one character, only the long s and the dotless i come to a
seven-bit one from beyond. -/
theorem capitalRuns_far : ∀ run ∈ capitalRuns, run.last < 0x80 ∨
    0x80 ≤ (run.first : Int) + run.shift ∨ run = ⟨0x131, 0x131, 1, -232⟩ ∨
    run = ⟨0x17f, 0x17f, 1, -300⟩ := by
  decide +kernel

/-- A capital of several characters is a double s or has a character that is not a key letter. -/
theorem longCapitals_foreign : ∀ entry ∈ longCapitals, 2 ≤ entry.2.length ∧
    (entry.2 = [0x53, 0x53] ∨ ∃ n ∈ entry.2, n ∉ keyLetters.map Char.toNat) := by
  decide +kernel

theorem upperChar_of_lt {c : Char} (small : c.toNat < 0x80) : upperChar c = [c.toUpper] := by
  have all : ∀ n, n < 0x80 → upperChar (Char.ofNat n) = [(Char.ofNat n).toUpper] := by
    decide +kernel
  have here := all c.toNat small
  rwa [Char.ofNat_toNat] at here

/-! ## Characters -/

theorem toNat_eq_of_ofNat {n : Nat} {c : Char} (some_char : 0 < c.toNat)
    (same : Char.ofNat n = c) : c.toNat = n := by
  have code := Char.toNat_ofNat n
  rw [same] at code
  split at code
  · exact code
  · omega

theorem toUpper_of_le {c : Char} (large : 0x80 ≤ c.toNat) : c.toUpper = c := by
  apply Char.toUpper_eq_of_not_isLower
  intro lower
  simp only [Char.isLower, Bool.and_eq_true, decide_eq_true_eq] at lower
  have small : c.toNat ≤ 122 := lower.2
  omega

theorem toNat_mem_of_mem_keyLetters {letter : Char} (key : letter ∈ keyLetters) :
    letter.toNat ∈ [0x41, 0x43, 0x44, 0x45, 0x53] := List.mem_map_of_mem key

theorem toNat_lt_of_mem_keyLetters {letter : Char} (key : letter ∈ keyLetters) :
    0 < letter.toNat ∧ letter.toNat < 0x80 := by
  have codes : ∀ n ∈ [0x41, 0x43, 0x44, 0x45, 0x53], 0 < n ∧ n < 0x80 := by decide
  exact codes _ (toNat_mem_of_mem_keyLetters key)

/-- The capital of a run is a key letter only for a long s. -/
theorem eq_longS_of_run {c letter : Char} (large : 0x80 ≤ c.toNat) (key : letter ∈ keyLetters)
    {run : CaseRun} (among : run ∈ capitalRuns) (holds : run.holds c.toNat = true)
    (same : Char.ofNat ((c.toNat : Int) + run.shift).toNat = letter) : c = 'ſ' := by
  have small := toNat_lt_of_mem_keyLetters key
  have code := toNat_eq_of_ofNat small.1 same
  simp only [CaseRun.holds, Bool.and_eq_true, decide_eq_true_eq] at holds
  obtain ⟨⟨from_first, to_last⟩, _⟩ := holds
  rcases capitalRuns_far run among with near | far | rfl | rfl
  · omega
  · omega
  · -- The dotless i comes to an `I`, which is no key letter.
    have capital : letter.toNat = 0x49 := by
      simp only at from_first to_last code
      omega
    have codes := toNat_mem_of_mem_keyLetters key
    rw [capital] at codes
    exact absurd codes (by decide)
  · have long_s : c.toNat = 0x17f := Nat.le_antisymm to_last from_first
    rw [← Char.ofNat_toNat c, long_s]

theorem upperChar_ne_of_far {c letter : Char} (large : 0x80 ≤ c.toNat) (other : c ≠ 'ſ')
    (key : letter ∈ keyLetters) : upperChar c ≠ [letter] := by
  unfold upperChar
  rw [if_neg (Nat.not_lt.2 large)]
  split
  · next entry found =>
    intro same
    have longer := (longCapitals_foreign entry (List.mem_of_find?_eq_some found)).1
    have one : entry.2.length = 1 := by simpa using congrArg List.length same
    omega
  · split
    · next run found =>
      intro same
      have holds := List.find?_some found
      exact other (eq_longS_of_run large key (List.mem_of_find?_eq_some found) holds
        (List.cons.inj same).1)
    · intro same
      obtain rfl := (List.cons.inj same).1
      exact absurd (toNat_lt_of_mem_keyLetters key).2 (Nat.not_lt.2 large)

/-- A key letter is the capital of its seven-bit letters, and an `S` that of a long s as well. -/
theorem upperChar_eq_singleton_iff {c letter : Char} (key : letter ∈ keyLetters) :
    upperChar c = [letter] ↔ (shortChar c).toUpper = letter := by
  by_cases long_s : c = 'ſ'
  · have upper : upperChar 'ſ' = ['S'] := by decide +kernel
    have short : (shortChar 'ſ').toUpper = 'S' := by decide
    rw [long_s, upper, short, List.cons.injEq, and_iff_left rfl]
  · rw [shortChar, if_neg long_s]
    by_cases small : c.toNat < 0x80
    · rw [upperChar_of_lt small, List.cons.injEq, and_iff_left rfl]
    · have large := Nat.le_of_not_lt small
      rw [toUpper_of_le large]
      refine iff_of_false (upperChar_ne_of_far large long_s key) ?_
      rintro rfl
      exact small (toNat_lt_of_mem_keyLetters key).2

/-- A character has one capital, or a longer one from the table. -/
theorem upperChar_cases (c : Char) : (∃ capital, upperChar c = [capital]) ∨
    ∃ entry ∈ longCapitals, upperChar c = entry.2.map Char.ofNat := by
  by_cases small : c.toNat < 0x80
  · exact Or.inl ⟨_, upperChar_of_lt small⟩
  · unfold upperChar
    rw [if_neg small]
    cases found : longCapitals.find? (fun entry => entry.1 == c.toNat) with
    | some entry => exact Or.inr ⟨entry, List.mem_of_find?_eq_some found, rfl⟩
    | none =>
      left
      cases capitalRuns.find? (fun run => run.holds c.toNat) with
      | some run => exact ⟨_, rfl⟩
      | none => exact ⟨_, rfl⟩

theorem upperChar_ne_nil (c : Char) : upperChar c ≠ [] := by
  rcases upperChar_cases c with ⟨capital, single⟩ | ⟨entry, among, long⟩
  · rw [single]
    exact List.cons_ne_nil _ _
  · intro empty
    have longer := (longCapitals_foreign entry among).1
    rw [long, List.map_eq_nil_iff] at empty
    rw [empty] at longer
    exact absurd longer (by decide)

/-! ## Words -/

/-- A word of key letters without a double s. -/
structure IsCapitalWord (word : List Char) : Prop where
  letters : word ⊆ keyLetters
  single : ¬ ['S', 'S'] <:+: word

theorem IsCapitalWord.tail {letter : Char} {word : List Char}
    (key : IsCapitalWord (letter :: word)) : IsCapitalWord word where
  letters := fun _ among => key.letters (List.mem_cons_of_mem _ among)
  single := fun twice => key.single (twice.trans (List.suffix_cons letter word).isInfix)

/-- No word of key letters without a double s begins with a longer capital. -/
theorem IsCapitalWord.ne_long {word rest : List Char} (key : IsCapitalWord word)
    {entry : Nat × List Nat} (among : entry ∈ longCapitals) :
    entry.2.map Char.ofNat ++ rest ≠ word := by
  rintro rfl
  rcases (longCapitals_foreign entry among).2 with double | ⟨n, foreign, other⟩
  · rw [double] at key
    exact key.single ⟨[], rest, rfl⟩
  · have letter : Char.ofNat n ∈ keyLetters := key.letters
      (List.mem_append_left _ (List.mem_map_of_mem foreign))
    have code := toNat_eq_of_ofNat (toNat_lt_of_mem_keyLetters letter).1 rfl
    exact other (code ▸ List.mem_map_of_mem letter)

theorem flatMap_upperChar_eq_iff {word : List Char} (key : IsCapitalWord word) (cs : List Char) :
    cs.flatMap upperChar = word ↔ (cs.map fun c => (shortChar c).toUpper) = word := by
  induction cs generalizing word with
  | nil => rfl
  | cons c rest ih =>
    rw [List.flatMap_cons, List.map_cons]
    cases word with
    | nil =>
      exact iff_of_false (fun empty => upperChar_ne_nil c (List.append_eq_nil_iff.1 empty).1)
        (List.cons_ne_nil _ _)
    | cons letter word =>
      have first := upperChar_eq_singleton_iff (c := c) (key.letters List.mem_cons_self)
      rcases upperChar_cases c with ⟨capital, single⟩ | ⟨entry, among, long⟩
      · rw [single, List.cons.injEq, and_iff_left rfl] at first
        rw [single, List.singleton_append, List.cons.injEq, List.cons.injEq, first, ih key.tail]
      · refine iff_of_false ?_ ?_
        · rw [long]
          exact key.ne_long among
        · intro same
          have longer := (longCapitals_foreign entry among).1
          rw [long] at first
          have one := congrArg List.length (first.2 (List.cons.inj same).1)
          rw [List.length_map, List.length_singleton] at one
          omega

/-- A text is a word in upper case if it is in seven-bit capitals, with an s for every long s. -/
theorem upper_eq_iff {s word : String} (key : IsCapitalWord word.toList) :
    upper s = word ↔ (shortened s).toUpper = word := by
  have characters (t : String) : t = word ↔ t.toList = word.toList := String.toList_inj.symm
  rw [characters, characters, upper, String.toList_ofList, flatMap_upperChar_eq_iff key,
    String.toUpper, shortened, String.toList_map, String.toList_map, List.map_map]
  rfl

/-- Without a long s nothing is written otherwise. -/
theorem shortened_of_not_mem {s : String} (absent : 'ſ' ∉ s.toList) : shortened s = s := by
  rw [← String.toList_inj, shortened, String.toList_map]
  refine (List.map_congr_left fun c among => ?_).trans (List.map_id _)
  have other : c ≠ 'ſ' := by
    rintro rfl
    exact absent among
  rw [shortChar, if_neg other, id]

/-- Seven-bit capitals come to seven-bit texts from such texts only. -/
theorem toNat_lt_of_toUpper {s : String} (small : ∀ c ∈ s.toUpper.toList, c.toNat < 0x80) :
    ∀ c ∈ s.toList, c.toNat < 0x80 := by
  intro c among
  by_contra large
  have same := toUpper_of_le (Nat.le_of_not_lt large)
  have kept : c ∈ s.toUpper.toList := by
    rw [String.toUpper, String.toList_map]
    exact List.mem_map.2 ⟨c, among, same⟩
  exact large (small c kept)

end SqlAssembly.Text
