import SqlAssembly.Settings.EnvFile

/-!
# Plain settings files

A settings file is *plain* if each of its lines is a name, an equals sign and a
text in which nothing has a meaning of its own: no blank, no quote, no number
sign, no dollar sign and no backslash.  A line ends with a line feed, a carriage
return or both, and the last one may have no end.

In such a file every line is an entry, its name and its text are as they are
written, and of the lines with one name the last counts
(`PlainFile.parse_text`).
-/

namespace SqlAssembly.EnvFile

/-! ## Lines -/

/-- What ends a line. -/
inductive LineEnd
  | feed
  | carriage
  | both
  deriving DecidableEq, Repr

/-- The characters that end a line. -/
def LineEnd.chars : LineEnd → List Char
  | .feed => ['\n']
  | .carriage => ['\r']
  | .both => ['\r', '\n']

/-- A line of a plain file. -/
structure Line where
  /-- The name. -/
  name : String
  /-- The text for it. -/
  text : String
  named : name ≠ ""
  /-- No character ends the name or starts a comment. -/
  name_chars : ∀ c ∈ name.toList, Text.isBlank c = false ∧ c ≠ '=' ∧ c ≠ '#'
  /-- A quote at its start would be no part of the name. -/
  not_quoted : name.toList.head? ≠ some '\''
  /-- No character of the text has a meaning of its own. -/
  text_chars : ∀ c ∈ text.toList, Text.isBlank c = false ∧ c ∉ ['\'', '"', '#', '$', '\\']

/-- The rest of a text from the end of a line on. -/
def AtLineEnd (cs : List Char) : Prop := cs = [] ∨ ∃ rest, cs = '\n' :: rest

theorem AtLineEnd.skipInner_eq {cs : List Char} (at_end : AtLineEnd cs) : skipInner cs = cs := by
  obtain rfl | ⟨rest, rfl⟩ := at_end
  · rfl
  · exact List.dropWhile_cons_of_neg (by decide)

theorem AtLineEnd.skipComment_eq {cs : List Char} (at_end : AtLineEnd cs) :
    skipComment cs = cs := by
  rw [skipComment, at_end.skipInner_eq]
  obtain rfl | ⟨rest, rfl⟩ := at_end <;> rfl

theorem AtLineEnd.lineEnd?_eq {cs : List Char} (at_end : AtLineEnd cs) :
    lineEnd? cs = some cs.tail := by
  rw [lineEnd?, at_end.skipInner_eq]
  obtain rfl | ⟨rest, rfl⟩ := at_end <;> rfl

theorem AtLineEnd.no_blank {cs : List Char} (at_end : AtLineEnd cs) :
    (cs.head?.map Text.isInnerBlank).getD false = false := by
  obtain rfl | ⟨rest, rfl⟩ := at_end
  · rfl
  · exact show Text.isInnerBlank '\n' = false by decide

theorem AtLineEnd.takeWhile_eq {cs : List Char} (at_end : AtLineEnd cs) :
    cs.takeWhile (!Text.isLineEnd ·) = [] := by
  obtain rfl | ⟨rest, rfl⟩ := at_end
  · rfl
  · exact List.takeWhile_cons_of_neg (by decide)

theorem AtLineEnd.dropWhile_eq {cs : List Char} (at_end : AtLineEnd cs) :
    cs.dropWhile (!Text.isLineEnd ·) = cs := by
  obtain rfl | ⟨rest, rfl⟩ := at_end
  · rfl
  · exact List.dropWhile_cons_of_neg (by decide)

/-- Characters without a blank, up to the end of a line, have no blanks to be skipped. -/
theorem skipInner_append {cs rest : List Char} (solid : ∀ c ∈ cs, Text.isBlank c = false)
    (at_end : AtLineEnd rest) : skipInner (cs ++ rest) = cs ++ rest := by
  cases cs with
  | nil => exact at_end.skipInner_eq
  | cons c cs =>
    refine List.dropWhile_cons_of_neg ?_
    simp [Text.isInnerBlank, solid c List.mem_cons_self]

/-- The word `export` is skipped only if a blank comes after it. -/
theorem skipExport_append {cs rest : List Char} (solid : ∀ c ∈ cs, Text.isBlank c = false)
    (at_end : AtLineEnd rest) : skipExport (cs ++ rest) = cs ++ rest := by
  rw [skipExport]
  split
  next starts =>
    obtain ⟨after, whole⟩ := List.isPrefixOf_iff_prefix.1 starts
    have dropped : (cs ++ rest).drop "export".toList.length = after := by
      rw [← whole, List.drop_left]
    have no_blank : (after.head?.map Text.isInnerBlank).getD false = false := by
      -- The word ends in the line, or with it; the end of the line is no part of the word.
      obtain ⟨more, rfl, rfl⟩ | ⟨more, word, rfl⟩ := List.append_eq_append_iff.1 whole
      · cases more with
        | nil => exact at_end.no_blank
        | cons c more =>
          have solid_c := solid c (List.mem_append_right _ List.mem_cons_self)
          simp [Text.isInnerBlank, solid_c]
      · cases more with
        | nil => exact at_end.no_blank
        | cons c more =>
          obtain none_left | ⟨rest, is_end⟩ := at_end
          · cases none_left
          · obtain ⟨rfl, -⟩ := List.cons.inj is_end
            have among : '\n' ∈ "export".toList := word ▸ List.mem_append_right _ List.mem_cons_self
            exact absurd among (by simp)
    simp only [dropped, no_blank, Bool.false_eq_true, if_false]
  next => rfl

namespace Line

/-- The characters of a line, up to its end. -/
def chars (line : Line) : List Char := line.name.toList ++ '=' :: line.text.toList

/-- A line as a named text. -/
def entry (line : Line) : String × Option String := (line.name, some line.text)

theorem name_ne_nil (line : Line) : line.name.toList ≠ [] :=
  mt String.toList_eq_nil_iff.1 line.named

theorem chars_ne_nil (line : Line) : line.chars ≠ [] := by simp [chars]

theorem chars_solid (line : Line) : ∀ c ∈ line.chars, Text.isBlank c = false := by
  intro c among
  rcases List.mem_append.1 among with in_name | after
  · exact (line.name_chars c in_name).1
  rcases List.mem_cons.1 after with rfl | in_text
  · decide
  · exact (line.text_chars c in_text).1

theorem readName_chars (line : Line) (rest : List Char) :
    readName (line.chars ++ rest) =
      some (some line.name.toList, '=' :: (line.text.toList ++ rest)) := by
  obtain ⟨c, more, name_eq⟩ := List.exists_cons_of_ne_nil line.name_ne_nil
  have in_name := line.name_chars
  have not_quoted := line.not_quoted
  rw [name_eq] at in_name not_quoted
  rw [chars, name_eq, List.cons_append, List.cons_append, readName]
  · have inside : ∀ d ∈ c :: more, (d != '=' && d != '#' && !Text.isBlank d) = true := by
      intro d among
      obtain ⟨solid, not_equals, not_number⟩ := in_name d among
      simp [solid, not_equals, not_number]
    have whole : c :: (more ++ '=' :: line.text.toList ++ rest) =
        (c :: more) ++ '=' :: (line.text.toList ++ rest) := by
      simp
    rw [whole, List.takeWhile_append_of_pos inside, List.dropWhile_append_of_pos inside,
      List.takeWhile_cons_of_neg (by decide), List.dropWhile_cons_of_neg (by decide),
      List.append_nil]
  · rintro tail same
    exact (in_name c List.mem_cons_self).2.2 (List.cons.inj same).1
  · rintro tail same
    exact not_quoted (congrArg some (List.cons.inj same).1)

theorem plainValue_text (line : Line) : plainValue line.text.toList = line.text.toList := by
  have solid := fun c among => (line.text_chars c among).1
  have no_comment : ∀ cs : List Char, (∀ c ∈ cs, Text.isBlank c = false) →
      withoutComment cs = cs := by
    intro cs solid
    induction cs with
    | nil => rfl
    | cons c cs ih =>
      obtain ⟨first, later⟩ := List.forall_mem_cons.1 solid
      rw [withoutComment, first, ih later]
      rfl
  have no_blank_end : line.text.toList.reverse.dropWhile Text.isBlank =
      line.text.toList.reverse := by
    cases split : line.text.toList.reverse with
    | nil => rfl
    | cons c more =>
      have among : c ∈ line.text.toList := List.mem_reverse.1 (split ▸ List.mem_cons_self)
      exact List.dropWhile_cons_of_neg (by simp [solid c among])
  rw [plainValue, no_comment _ solid, Text.trimEnd, no_blank_end, List.reverse_reverse]
  have nothing_after : AtLineEnd [] := .inl rfl
  simpa [skipInner] using skipInner_append solid nothing_after

theorem readValue_text (line : Line) {rest : List Char} (at_end : AtLineEnd rest) :
    readValue (line.text.toList ++ rest) = some (line.text.toList, rest) := by
  have solid := fun c among => (line.text_chars c among).1
  have not_quoted : ∀ quote ∈ ['\'', '"'], ∀ more, line.text.toList ++ rest ≠ quote :: more := by
    intro quote is_quote more same
    cases split : line.text.toList with
    | nil =>
      rw [split, List.nil_append] at same
      obtain rfl | ⟨rest, rfl⟩ := at_end
      · cases same
      · obtain ⟨rfl, -⟩ := List.cons.inj same
        exact absurd is_quote (by decide)
    | cons c text =>
      rw [split, List.cons_append] at same
      obtain ⟨rfl, -⟩ := List.cons.inj same
      refine (line.text_chars c (split ▸ List.mem_cons_self)).2 ?_
      exact List.mem_append_left ['#', '$', '\\'] is_quote
  have inside : ∀ c ∈ line.text.toList, (!Text.isLineEnd c) = true := by
    intro c among
    cases line_end : Text.isLineEnd c with
    | false => rfl
    | true => exact absurd (solid c among) (by simp [Text.isBlank_of_isLineEnd line_end])
  rw [readValue, skipInner_append solid at_end]
  split
  next more same => exact absurd same (not_quoted '\'' (by simp) more)
  next more same => exact absurd same (not_quoted '"' (by simp) more)
  next =>
    rw [List.takeWhile_append_of_pos inside, List.dropWhile_append_of_pos inside,
      at_end.takeWhile_eq, at_end.dropWhile_eq, List.append_nil, line.plainValue_text]

theorem readEntry_chars (line : Line) {rest : List Char} (at_end : AtLineEnd rest) :
    readEntry (line.chars ++ rest) = (some line.entry, rest.tail) := by
  have assigned : readAssigned ('=' :: (line.text.toList ++ rest)) =
      some (some line.text.toList, rest) := by
    rw [readAssigned, show skipInner ('=' :: (line.text.toList ++ rest)) = _ from
      List.dropWhile_cons_of_neg (by decide)]
    simp only [line.readValue_text at_end, Option.map_some]
  rw [readEntry, skipExport_append line.chars_solid at_end]
  simp only [readName_chars, assigned, at_end.skipComment_eq, at_end.lineEnd?_eq, Option.map_some,
    String.ofList_toList, entry]

theorem text_no_reference (line : Line) : '$' ∉ line.text.toList :=
  fun among => (line.text_chars '$' among).2 (by simp)

end Line

/-! ## Files -/

/-- A plain file. -/
structure PlainFile where
  /-- The lines that have an end, and their ends. -/
  ended : List (Line × LineEnd)
  /-- A last line that has none. -/
  last : Option Line
  /-- A mark of the order of bytes at the start would be no part of the first name. -/
  no_mark : ∀ line ∈ (ended.map Prod.fst ++ last.toList).head?,
    line.name.toList.head? ≠ some '\ufeff'

/-- Lines with their ends, and a last one without. -/
def written : List (Line × LineEnd) → Option Line → List Char
  | [], last => (last.map Line.chars).getD []
  | (line, stop) :: more, last => line.chars ++ (stop.chars ++ written more last)

namespace PlainFile

/-- The lines of a file. -/
def lines (file : PlainFile) : List Line := file.ended.map Prod.fst ++ file.last.toList

/-- The lines of a file as named texts. -/
def entries (file : PlainFile) : Bindings (Option String) :=
  file.lines.map Line.entry

/-- The text of a file. -/
def text (file : PlainFile) : String := String.ofList (written file.ended file.last)

end PlainFile

/-- What is left of a file has no blank before it. -/
theorem head?_written (ended : List (Line × LineEnd)) (last : Option Line) :
    ∀ c ∈ (written ended last).head?, Text.isBlank c = false := by
  have first : ∀ (line : Line) (rest : List Char), ∀ c ∈ (line.chars ++ rest).head?,
      Text.isBlank c = false := by
    intro line rest c is_first
    obtain ⟨d, more, chars_eq⟩ := List.exists_cons_of_ne_nil line.chars_ne_nil
    rw [chars_eq] at is_first
    obtain rfl := Option.some.inj is_first
    exact line.chars_solid d (chars_eq ▸ List.mem_cons_self)
  intro c is_first
  match ended, last with
  | [], none => cases is_first
  | [], some line => exact first line [] c (by simpa [written] using is_first)
  | (line, stop) :: more, last => exact first line _ c is_first

theorem length_written : ∀ (ended : List (Line × LineEnd)) (last : Option Line),
    ended.length ≤ (written ended last).length
  | [], _ => Nat.zero_le _
  | (line, stop) :: more, last => by
    have rest := length_written more last
    have first := List.length_pos_iff.2 line.chars_ne_nil
    simp only [written, List.length_append, List.length_cons]
    omega

/-- A file starts with its first name, and so with no mark of the order of bytes. -/
theorem withoutMark_written {ended : List (Line × LineEnd)} {last : Option Line}
    (no_mark : ∀ line ∈ (ended.map Prod.fst ++ last.toList).head?,
      line.name.toList.head? ≠ some '\ufeff') :
    withoutMark (written ended last) = written ended last := by
  have first : ∀ (line : Line) (rest : List Char), line.name.toList.head? ≠ some '\ufeff' →
      withoutMark (line.chars ++ rest) = line.chars ++ rest := by
    intro line rest not_mark
    obtain ⟨c, more, name_eq⟩ := List.exists_cons_of_ne_nil line.name_ne_nil
    rw [name_eq] at not_mark
    rw [Line.chars, name_eq, List.cons_append, List.cons_append, withoutMark]
    rintro rest same
    exact not_mark (congrArg some (List.cons.inj same).1)
  match ended, last with
  | [], none => rfl
  | [], some line => simpa [written] using first line [] (no_mark line rfl)
  | (line, stop) :: more, last => exact first line _ (no_mark line rfl)

/-- Characters that end no line are the same with line ends of any sort. -/
theorem unixLines_append {cs : List Char} (solid : ∀ c ∈ cs, Text.isBlank c = false)
    (rest : List Char) : unixLines (cs ++ rest) = cs ++ unixLines rest := by
  induction cs with
  | nil => rfl
  | cons c cs ih =>
    obtain ⟨first, later⟩ := List.forall_mem_cons.1 solid
    have not_return : c ≠ '\r' := by
      rintro rfl
      exact absurd first (by decide)
    rw [List.cons_append, unixLines, ih later, List.cons_append]
    · exact fun _ is_return => absurd is_return not_return
    · exact not_return

theorem unixLines_lineEnd (stop : LineEnd) {rest : List Char} (not_feed : rest.head? ≠ some '\n') :
    unixLines (stop.chars ++ rest) = '\n' :: unixLines rest := by
  cases stop with
  | feed => rfl
  | carriage =>
    rw [LineEnd.chars, List.singleton_append, unixLines]
    rintro rest rfl
    exact not_feed rfl
  | both => rfl

/-- A file with line ends of any sort is read as if they were line feeds. -/
theorem unixLines_written (last : Option Line) : ∀ ended : List (Line × LineEnd),
    unixLines (written ended last) =
      written ((ended.map Prod.fst).map fun line => (line, .feed)) last
  | [] => by
    cases last with
    | none => rfl
    | some line => simpa [written, unixLines] using unixLines_append line.chars_solid []
  | (line, stop) :: more => by
    have not_feed : (written more last).head? ≠ some '\n' := by
      intro feed
      exact absurd (head?_written more last '\n' feed) (by decide)
    rw [written, unixLines_append line.chars_solid, unixLines_lineEnd stop not_feed,
      unixLines_written last more]
    rfl

/-- A line is read as one entry, and then what comes after its end. -/
theorem readEntries_chars (line : Line) {rest : List Char} (at_end : AtLineEnd rest) (fuel : Nat) :
    readEntries (fuel + 1) (line.chars ++ rest) =
      line.entry :: readEntries fuel rest.tail := by
  have read := line.readEntry_chars at_end
  obtain ⟨c, more, chars_eq⟩ := List.exists_cons_of_ne_nil line.chars_ne_nil
  have solid := line.chars_solid c (chars_eq ▸ List.mem_cons_self)
  rw [chars_eq, List.cons_append] at read ⊢
  rw [readEntries, List.dropWhile_cons_of_neg (by simp [solid])]
  simp only [read, Option.toList_some, List.singleton_append]

theorem readEntries_nil (fuel : Nat) : readEntries fuel [] = [] := by
  cases fuel <;> rfl

/-- Every line of a file with line feeds is an entry. -/
theorem readEntries_written (last : Option Line) : ∀ (lines : List Line) (fuel : Nat),
    lines.length < fuel → readEntries fuel (written (lines.map fun line => (line, .feed)) last) =
      (lines ++ last.toList).map Line.entry
  | _, 0, few => absurd few (Nat.not_lt_zero _)
  | [], fuel + 1, _ => by
    -- One more entry may be left, the line without an end.
    cases last with
    | none => rfl
    | some line =>
      have read := readEntries_chars line (.inl rfl : AtLineEnd []) fuel
      rwa [List.append_nil, List.tail_nil, readEntries_nil] at read
  | line :: more, fuel + 1, few => by
    have read := readEntries_chars line (.inr ⟨_, rfl⟩ :
      AtLineEnd ('\n' :: written (more.map fun line => (line, .feed)) last)) fuel
    rw [List.tail_cons, readEntries_written last more fuel (Nat.lt_of_succ_lt_succ few)] at read
    exact read

theorem expand_eq_self (known : String → Option (Option String)) :
    ∀ (fuel : Nat) {cs : List Char}, '$' ∉ cs → expand known fuel cs = cs
  | 0, _, _ => rfl
  | _ + 1, [], _ => rfl
  | fuel + 1, c :: cs, none_left => by
    obtain ⟨not_first, not_later⟩ := not_or.1 (mt List.mem_cons.2 none_left)
    rw [expand, expand_eq_self known fuel not_later]
    exact fun _ is_dollar => absurd is_dollar.symm not_first

namespace PlainFile

/-- A plain file is read as its lines, put one after the other under their names. -/
theorem parse_text (process : Bindings String) (file : PlainFile) :
    parse process file.text =
      file.entries.foldl (fun kept entry => Bindings.put kept entry.1 entry.2) [] := by
  have added : ∀ entries (line : Line), addEntry process entries line.entry =
      Bindings.put entries line.entry.1 line.entry.2 := by
    intro entries line
    rw [addEntry, Line.entry, Option.map_some, expand_eq_self _ _ line.text_no_reference,
      String.ofList_toList]
  have enough := length_written ((file.ended.map Prod.fst).map fun line => (line, LineEnd.feed))
    file.last
  rw [List.length_map] at enough
  simp only [parse]
  rw [text, String.toList_ofList, withoutMark_written file.no_mark, unixLines_written,
    readEntries_written _ _ _ (Nat.lt_succ_of_le enough), entries, List.foldl_map, List.foldl_map]
  simp only [added]
  rfl

end PlainFile

end SqlAssembly.EnvFile
