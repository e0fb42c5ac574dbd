/-!
# Paths

A path is a root and the names of its parts.  Reading one drops the empty parts
and the single points, so that two spellings of a path become one value; double
points stay, because what they lead to depends on links.  One leading slash and
three are the same root, two are a root of their own.

Main statements: reading the text of a path that was read gives the path back
(`ofString_toString`), and a part that was read is never empty, never a
point and holds no slash (`Part`).
-/

namespace SqlAssembly

/-- Where a path starts. -/
inductive PathRoot
  | relative
  | single
  | double
  deriving DecidableEq, Repr, Inhabited

/-- A path: where it starts, and the names of its parts. -/
structure Path where
  /-- Where it starts. -/
  root : PathRoot
  /-- The names of its parts. -/
  parts : List String
  deriving DecidableEq, Repr, Inhabited

namespace Path

/-- The slashes that write a root. -/
def rootText : PathRoot → List Char
  | .relative => []
  | .single => ['/']
  | .double => ['/', '/']

/-- The root that a text starts with: none, two slashes exactly, or any other number of them. -/
def readRoot : List Char → PathRoot
  | '/' :: '/' :: '/' :: _ => .single
  | '/' :: '/' :: _ => .double
  | '/' :: _ => .single
  | _ => .relative

/-- The pieces between slashes. -/
def pieces : List Char → List (List Char)
  | [] => [[]]
  | c :: cs =>
    if c = '/' then [] :: pieces cs
    else match pieces cs with
      | piece :: more => (c :: piece) :: more
      | [] => [[c]]

/-- Whether a piece is a part: not empty, and not a single point. -/
def isPart (piece : List Char) : Bool := piece != [] && piece != ['.']

/-- The path that a text writes. -/
def ofString (s : String) : Path :=
  ⟨readRoot s.toList, ((pieces s.toList).filter isPart).map String.ofList⟩

/-- The text of a path; a path without root and parts is a point. -/
def toString (p : Path) : String :=
  if p.root = .relative ∧ p.parts = [] then "."
  else String.ofList (rootText p.root) ++ "/".intercalate p.parts

/-- Whether a path starts at a root. -/
def isAbsolute (p : Path) : Bool := p.root != .relative

/-- A path seen from another: itself if it starts at a root. -/
def below (base p : Path) : Path :=
  if p.isAbsolute then p else ⟨base.root, base.parts ++ p.parts⟩

/-- The parts left when each double point takes back the part before it; none if one is missing. -/
def resolved : List String → List String → Option (List String)
  | done, [] => some done.reverse
  | done, ".." :: rest => match done with
    | _ :: above => resolved above rest
    | [] => none
  | done, name :: rest => resolved (name :: done) rest

/-! ## Reading back -/

/-- A part as reading produces it. -/
structure Part (piece : List Char) : Prop where
  ne_nil : piece ≠ []
  ne_point : piece ≠ ['.']
  no_slash : '/' ∉ piece

theorem pieces_ne_nil (cs : List Char) : pieces cs ≠ [] := by
  cases cs with
  | nil => simp [pieces]
  | cons c cs =>
    simp only [pieces]
    split
    · simp
    · split <;> simp

theorem no_slash_of_mem_pieces {cs piece : List Char} (h : piece ∈ pieces cs) : '/' ∉ piece := by
  induction cs generalizing piece with
  | nil => simp_all [pieces]
  | cons c cs ih =>
    simp only [pieces] at h
    split at h
    · rcases List.mem_cons.1 h with rfl | h
      · simp
      · exact ih h
    · next not_slash =>
      split at h
      · next first more eq =>
        rcases List.mem_cons.1 h with rfl | h
        · have := @ih first (by simp [eq])
          simp [this, Ne.symm not_slash]
        · exact ih (by simp [eq, h])
      · next eq => exact absurd eq (pieces_ne_nil cs)

theorem part_of_mem_pieces {cs piece : List Char} (h : piece ∈ (pieces cs).filter isPart) :
    Part piece := by
  obtain ⟨mem, part⟩ := List.mem_filter.1 h
  simp only [isPart, Bool.and_eq_true, bne_iff_ne, ne_eq] at part
  exact ⟨part.1, part.2, no_slash_of_mem_pieces mem⟩

theorem pieces_of_no_slash {cs : List Char} (h : '/' ∉ cs) : pieces cs = [cs] := by
  induction cs with
  | nil => rfl
  | cons c cs ih =>
    simp only [List.mem_cons, not_or] at h
    simp [pieces, Ne.symm h.1, ih h.2]

theorem pieces_append_slash {cs : List Char} (h : '/' ∉ cs) (rest : List Char) :
    pieces (cs ++ '/' :: rest) = cs :: pieces rest := by
  induction cs with
  | nil => simp [pieces]
  | cons c cs ih =>
    simp only [List.mem_cons, not_or] at h
    simp [pieces, Ne.symm h.1, ih h.2]

/-- Parts with slashes between them are read back as they are. -/
theorem filter_pieces_intercalate {parts : List (List Char)} (h : ∀ part ∈ parts, Part part) :
    (pieces (['/'].intercalate parts)).filter isPart = parts := by
  induction parts with
  | nil => decide
  | cons part more ih =>
    have first := h part (by simp)
    have kept : isPart part = true := by
      simp [isPart, first.ne_nil, first.ne_point]
    cases more with
    | nil => simp [pieces_of_no_slash first.no_slash, kept]
    | cons next more =>
      have rest := ih fun p hp => h p (List.mem_cons_of_mem _ hp)
      rw [List.intercalate_cons_cons, List.append_assoc, List.singleton_append,
        pieces_append_slash first.no_slash, List.filter_cons_of_pos kept, rest]

/-- Whether every part of a path is one that reading produces. -/
def Normal (p : Path) : Prop := ∀ part ∈ p.parts, Part part.toList

theorem normal_ofString (s : String) : (ofString s).Normal := by
  intro part mem
  simp only [ofString, List.mem_map] at mem
  obtain ⟨piece, mem, rfl⟩ := mem
  simpa using part_of_mem_pieces mem

theorem map_ofList_filter_pieces {parts : List String} (h : ∀ part ∈ parts, Part part.toList) :
    ((pieces ("/".intercalate parts).toList).filter isPart).map String.ofList = parts := by
  rw [String.toList_intercalate]
  have : ∀ part ∈ parts.map String.toList, Part part := by
    intro part mem
    obtain ⟨name, among, rfl⟩ := List.mem_map.1 mem
    exact h name among
  rw [show "/".toList = ['/'] from rfl, filter_pieces_intercalate this, List.map_map]
  simp [Function.comp_def]

/-- The text of joined parts starts with the first character of the first part. -/
theorem readRoot_intercalate {parts : List String} (h : ∀ part ∈ parts, Part part.toList) :
    readRoot ("/".intercalate parts).toList = .relative := by
  rw [String.toList_intercalate]
  cases parts with
  | nil => rfl
  | cons part more =>
    have first := h part (by simp)
    obtain ⟨c, cs, eq⟩ := List.exists_cons_of_ne_nil first.ne_nil
    have not_slash : c ≠ '/' := by
      rintro rfl
      exact first.no_slash (by simp [eq])
    cases more with
    | nil => simp [eq, readRoot, not_slash]
    | cons next more => simp [eq, readRoot, not_slash, List.intercalate_cons_cons]

theorem ne_slash_of_readRoot {c : Char} {cs : List Char} (h : readRoot (c :: cs) = .relative) :
    c ≠ '/' := by
  rintro rfl
  unfold readRoot at h
  split at h <;> simp_all

/-- Reading the text of a path gives the path back, if its parts are ones that reading produces. -/
theorem ofString_toString {p : Path} (h : p.Normal) : ofString p.toString = p := by
  obtain ⟨root, parts⟩ := p
  have joined := map_ofList_filter_pieces h
  have start := readRoot_intercalate h
  simp only [toString]
  split
  · next empty =>
    obtain ⟨rfl, rfl⟩ := empty
    decide +kernel
  · simp only [ofString, String.toList_append, String.toList_ofList]
    generalize ("/".intercalate parts).toList = cs at *
    cases root with
    | relative => simp only [rootText, List.nil_append, start, joined]
    | single =>
      have root_eq : readRoot (['/'] ++ cs) = .single := by
        cases cs with
        | nil => rfl
        | cons c cs => simp [readRoot, ne_slash_of_readRoot start]
      simp only [rootText, root_eq]
      simp [pieces, isPart, joined]
    | double =>
      have root_eq : readRoot (['/', '/'] ++ cs) = .double := by
        cases cs with
        | nil => rfl
        | cons c cs => simp [readRoot, ne_slash_of_readRoot start]
      simp only [rootText, root_eq]
      simp [pieces, isPart, joined]

end Path

end SqlAssembly
