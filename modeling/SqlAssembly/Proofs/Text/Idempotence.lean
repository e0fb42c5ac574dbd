import SqlAssembly.Proofs.Text.Capitals

/-!
# Upper case of upper case

A text in upper case stays as it is when it is put in upper case (`upper_upper`).
What a character is written with in upper case is either the character itself,
because it has no other capital, or a code point of the tables' right-hand
sides.  None of those has another capital (`letters_apart`).

That is a statement about two long lists.  They are compared as the bits of two
numbers, which have none in common.
-/

namespace SqlAssembly.Text

/-! ## The code points of the tables -/

/-- The letters of a run. -/
def CaseRun.letters (run : CaseRun) : List Nat :=
  List.range' run.first ((run.last - run.first) / run.stride + 1) run.stride

/-- The capital of a letter of a run. -/
def CaseRun.capital (run : CaseRun) (n : Nat) : Nat := ((n : Int) + run.shift).toNat

/-- The code points with another capital. -/
def letters : List Nat := capitalRuns.flatMap CaseRun.letters ++ longCapitals.map Prod.fst

/-- The code points that such a capital is written with. -/
def capitals : List Nat :=
  capitalRuns.flatMap (fun run => run.letters.map run.capital) ++ longCapitals.flatMap Prod.snd

/-- Code points as the bits of a number. -/
def bits (codes : List Nat) : Nat := codes.foldr (fun n rest => 1 <<< n ||| rest) 0

theorem testBit_bits {codes : List Nat} {n : Nat} : (bits codes).testBit n = true ↔ n ∈ codes := by
  induction codes with
  | nil => simp [bits]
  | cons m rest ih =>
    rw [bits, List.foldr_cons, Nat.testBit_or, Bool.or_eq_true, Nat.one_shiftLeft,
      Nat.testBit_two_pow, decide_eq_true_iff, List.mem_cons, eq_comm]
    exact or_congr_right ih

theorem letters_apart : bits letters &&& bits capitals = 0 := by decide +kernel

/-- No code point of a capital has another capital. -/
theorem not_mem_letters_of_mem_capitals {n : Nat} (capital : n ∈ capitals) : n ∉ letters := by
  intro letter
  have common : (bits letters &&& bits capitals).testBit n = true := by
    rw [Nat.testBit_and, testBit_bits.2 letter, testBit_bits.2 capital, Bool.and_self]
  rw [letters_apart, Nat.zero_testBit] at common
  cases common

theorem CaseRun.mem_letters {run : CaseRun} {n : Nat} (holds : run.holds n = true) :
    n ∈ run.letters := by
  simp only [CaseRun.holds, Bool.and_eq_true, decide_eq_true_eq, beq_iff_eq] at holds
  obtain ⟨⟨from_first, to_last⟩, step⟩ := holds
  have within : (n - run.first) / run.stride ≤ (run.last - run.first) / run.stride :=
    Nat.div_le_div_right (Nat.sub_le_sub_right to_last run.first)
  have whole : run.stride * ((n - run.first) / run.stride) = n - run.first :=
    Nat.mul_div_cancel' (Nat.dvd_of_mod_eq_zero step)
  exact List.mem_range'.2 ⟨_, Nat.lt_succ_of_le within, by omega⟩

theorem mem_letters_of_run {run : CaseRun} (among : run ∈ capitalRuns) {n : Nat}
    (holds : run.holds n = true) : n ∈ letters :=
  List.mem_append_left _ (List.mem_flatMap.2 ⟨run, among, CaseRun.mem_letters holds⟩)

theorem mem_letters_of_long {entry : Nat × List Nat} (among : entry ∈ longCapitals) :
    entry.1 ∈ letters := List.mem_append_right _ (List.mem_map_of_mem among)

theorem mem_capitals_of_run {run : CaseRun} (among : run ∈ capitalRuns) {n : Nat}
    (holds : run.holds n = true) : run.capital n ∈ capitals :=
  List.mem_append_left _ (List.mem_flatMap.2
    ⟨run, among, List.mem_map_of_mem (CaseRun.mem_letters holds)⟩)

theorem mem_capitals_of_long {entry : Nat × List Nat} (among : entry ∈ longCapitals) {n : Nat}
    (part : n ∈ entry.2) : n ∈ capitals :=
  List.mem_append_right _ (List.mem_flatMap.2 ⟨entry, among, part⟩)

/-! ## Characters -/

theorem upperChar_of_not_letter {c : Char} (fixed : c.toNat ∉ letters) : upperChar c = [c] := by
  unfold upperChar
  dsimp only
  split
  · -- The letters of seven bits are a run, too.
    refine congrArg (fun d => [d]) (if_neg fun small => fixed ?_)
    have first : (⟨0x61, 0x7a, 1, -32⟩ : CaseRun) ∈ capitalRuns := List.mem_cons_self
    exact mem_letters_of_run first (by simp [CaseRun.holds, small, Nat.mod_one])
  · split
    · next entry found =>
      have named := List.find?_some found
      have letter := mem_letters_of_long (List.mem_of_find?_eq_some found)
      exact absurd (beq_iff_eq.1 named ▸ letter) fixed
    · split
      · next run found =>
        have holds := List.find?_some found
        exact absurd (mem_letters_of_run (List.mem_of_find?_eq_some found) holds) fixed
      · rfl

/-- A code point of a capital is a character that is its own capital. -/
theorem upperChar_ofNat_of_mem_capitals {n : Nat} (capital : n ∈ capitals) :
    upperChar (Char.ofNat n) = [Char.ofNat n] := by
  by_cases valid : n.isValidChar
  · apply upperChar_of_not_letter
    rw [Char.toNat_ofNat, if_pos valid]
    exact not_mem_letters_of_mem_capitals capital
  · have none_such : Char.ofNat n = Char.ofNat 0 := by
      rw [Char.ofNat, dif_neg valid]
      rfl
    rw [none_such]
    decide

theorem upperChar_of_mem_upperChar {c d : Char} (among : d ∈ upperChar c) : upperChar d = [d] := by
  by_cases small : c.toNat < 0x80
  · have all : ∀ n, n < 0x80 → upperChar (Char.ofNat n).toUpper = [(Char.ofNat n).toUpper] := by
      decide +kernel
    have here := all c.toNat small
    rw [upperChar_of_lt small, List.mem_singleton] at among
    rwa [Char.ofNat_toNat, ← among] at here
  · have same : ∀ capital, upperChar c = capital → d ∈ capital := fun _ same => same ▸ among
    unfold upperChar at same
    rw [if_neg small] at same
    cases long : longCapitals.find? (fun entry => entry.1 == c.toNat) with
    | some entry =>
      rw [long] at same
      obtain ⟨n, part, rfl⟩ := List.mem_map.1 (same _ rfl)
      exact upperChar_ofNat_of_mem_capitals
        (mem_capitals_of_long (List.mem_of_find?_eq_some long) part)
    | none =>
      cases found : capitalRuns.find? (fun run => run.holds c.toNat) with
      | some run =>
        rw [long, found] at same
        have holds := List.find?_some found
        obtain rfl := List.mem_singleton.1 (same _ rfl)
        exact upperChar_ofNat_of_mem_capitals
          (mem_capitals_of_run (List.mem_of_find?_eq_some found) holds)
      | none =>
        rw [long, found] at same
        obtain rfl := List.mem_singleton.1 (same _ rfl)
        unfold upperChar
        rw [if_neg small, long, found]

/-! ## Texts -/

/-- A text in upper case stays as it is when it is put in upper case. -/
theorem upper_upper (s : String) : upper (upper s) = upper s := by
  have fixed : ∀ c : Char, (upperChar c).flatMap upperChar = upperChar c := by
    intro c
    have single : (upperChar c).flatMap upperChar = (upperChar c).flatMap fun d => [d] :=
      List.flatMap_congr fun d among => upperChar_of_mem_upperChar among
    rw [single, List.flatMap_singleton']
  simp only [upper, String.toList_ofList, List.flatMap_assoc, fixed]

end SqlAssembly.Text
