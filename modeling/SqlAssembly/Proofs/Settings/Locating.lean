import Mathlib.Data.List.DropRight
import SqlAssembly.Proofs.Text.Spelling
import SqlAssembly.Settings.Location

/-!
# The place of the settings file

A text for the place of the settings file is unfolded first: a first component
with a tilde, at no root, stands for the components of a home directory.  What
that comes to is a root and components (`Path.Unfolds`), or nothing, if the
home directory is unknown or starts with a tilde itself (`Path.Homeless`).

Unfolded at no root, a text means a path of the project; unfolded at a root, it
means the same in every project.  Either way the path is absolute and in normal
form, as its parts have no other source than the text, the home directory and
the project's own path (`Location.find_cases`).
-/

namespace SqlAssembly

open SqlAssembly.Path (leadingRoot components)

/-! ## Home directories -/

namespace Homes

/-- Where a home directory starts: one that is written with slashes only, or with nothing at all, is
the root. -/
def rootOf (directory : String) : PathRoot :=
  if directory.toList.all (· == '/') then .single else leadingRoot directory

theorem trimmed_eq (directory : String) : trimmed directory =
    if directory.toList.rdropWhile (· == '/') = [] then "/"
    else String.ofList (directory.toList.rdropWhile (· == '/')) :=
  if_congr List.isEmpty_iff rfl rfl

theorem trimmed_of_slashes {directory : String} (only : ∀ c ∈ directory.toList, c = '/') :
    trimmed directory = "/" := by
  rw [trimmed_eq, if_pos]
  exact List.rdropWhile_eq_nil_iff.2 fun c among => beq_iff_eq.2 (only c among)

/-- A directory that has anything but slashes loses those at its end and nothing else. -/
theorem trimmed_append {directory : String} (other : ∃ c ∈ directory.toList, c ≠ '/') :
    ∃ slashes, (∀ c ∈ slashes.toList, c = '/') ∧ directory = trimmed directory ++ slashes ∧
      ∃ c ∈ (trimmed directory).toList, c ≠ '/' := by
  have some_kept : directory.toList.rdropWhile (· == '/') ≠ [] := by
    rw [ne_eq, List.rdropWhile_eq_nil_iff]
    simpa using other
  have kept := List.getLast_mem some_kept
  have not_slash := List.rdropWhile_last_not (· == '/') directory.toList some_kept
  rw [trimmed_eq, if_neg some_kept]
  refine ⟨String.ofList (directory.toList.rtakeWhile (· == '/')), fun c among => ?_, ?_, _, ?_,
    by simpa using not_slash⟩
  · rw [String.toList_ofList] at among
    simpa using List.mem_rtakeWhile_imp among
  · rw [← String.ofList_append, List.rdropWhile_append_rtakeWhile, String.ofList_toList]
  · rwa [String.toList_ofList]

theorem components_trimmed (directory : String) :
    components (trimmed directory) = components directory := by
  by_cases only : ∀ c ∈ directory.toList, c = '/'
  · have nothing := Path.components_append only ""
    rw [String.empty_append] at nothing
    rw [trimmed_of_slashes only, nothing]
    simp [Path.components_eq, Path.ofString, Path.pieces, Path.isPart]
  · obtain ⟨slashes, only, whole, _⟩ := trimmed_append (by simpa using only)
    conv_rhs => rw [whole, Path.components_append only]

theorem leadingRoot_trimmed (directory : String) :
    leadingRoot (trimmed directory) = rootOf directory := by
  by_cases only : ∀ c ∈ directory.toList, c = '/'
  · rw [rootOf, if_pos (by simpa using only), trimmed_of_slashes only]
    simp [leadingRoot]
  · obtain ⟨slashes, _, whole, other⟩ := trimmed_append (by simpa using only)
    rw [rootOf, if_neg (by simpa using only)]
    conv_rhs => rw [whole, Path.leadingRoot_append other]

theorem head?_trimmed (directory : String) :
    (trimmed directory).toList.head? = some '~' ↔ directory.toList.head? = some '~' := by
  by_cases only : ∀ c ∈ directory.toList, c = '/'
  · rw [trimmed_of_slashes only]
    refine iff_of_false (by simp) fun tilde => ?_
    exact absurd (only _ (List.mem_of_mem_head? tilde)) (by decide)
  · obtain ⟨slashes, _, whole, c, among, _⟩ := trimmed_append (by simpa using only)
    conv_rhs => rw [whole, String.toList_append,
      List.head?_append_of_ne_nil _ (List.ne_nil_of_mem among)]

/-- What a home directory is read as. -/
theorem ofString_trimmed (directory : String) :
    Path.ofString (trimmed directory) = ⟨rootOf directory, components directory⟩ := by
  rw [Path.ofString_eq, leadingRoot_trimmed, components_trimmed]

end Homes

/-! ## Unfolding -/

namespace Path

/-- A text that starts in a home directory: at no root, with a tilde as the first character of the
first component. -/
structure StartsAtHome (text first : String) (rest : List String) : Prop where
  no_root : leadingRoot text = .relative
  components_eq : components text = first :: rest
  tilde : first.toList.head? = some '~'

/-- A text that starts in a home directory that is unknown, or starts with a tilde itself. -/
def Homeless (homes : Homes) (text : String) : Prop :=
  ∃ first rest, StartsAtHome text first rest ∧
    ∀ directory, homes.directory? first = some directory → directory.toList.head? = some '~'

/-- What a text comes to when its home directory, if it has one, is put in place of its first
component: where it starts, and its components. -/
inductive Unfolds (homes : Homes) (text : String) : PathRoot → List String → Prop
  | plain : (∀ first rest, ¬ StartsAtHome text first rest) →
      Unfolds homes text (leadingRoot text) (components text)
  | home {first : String} {rest : List String} {directory : String} :
      StartsAtHome text first rest → homes.directory? first = some directory →
      directory.toList.head? ≠ some '~' →
      Unfolds homes text (Homes.rootOf directory) (components directory ++ rest)

theorem homeless_or_unfolds (homes : Homes) (text : String) :
    Homeless homes text ∨ ∃ start parts, Unfolds homes text start parts := by
  by_cases at_home : ∃ first rest, StartsAtHome text first rest
  · obtain ⟨first, rest, at_home⟩ := at_home
    cases known : homes.directory? first with
    | none => exact .inl ⟨first, rest, at_home, by simp [known]⟩
    | some directory =>
      by_cases tilde : directory.toList.head? = some '~'
      · exact .inl ⟨first, rest, at_home, by simp [known, tilde]⟩
      · exact .inr ⟨_, _, .home at_home known tilde⟩
  · exact .inr ⟨_, _, .plain fun first rest start => at_home ⟨first, rest, start⟩⟩

theorem expanded_of_startsAtHome {text first : String} {rest : List String}
    (at_home : StartsAtHome text first rest) (homes : Homes) :
    (ofString text).expanded homes = match homes.directory? first with
      | none => .error .noHome
      | some directory =>
        if directory.toList.head? = some '~' then .error .noHome
        else .ok ⟨Homes.rootOf directory, components directory ++ rest⟩ := by
  rw [ofString_eq, at_home.no_root, at_home.components_eq, expanded]
  simp only [isAbsolute, bne_self_eq_false, if_pos at_home.tilde]
  cases homes.directory? first with
  | none => rfl
  | some directory =>
    simp only [Option.map_some, Homes.head?_trimmed, Homes.ofString_trimmed]

theorem expanded_of_homeless {homes : Homes} {text : String} (homeless : Homeless homes text) :
    (ofString text).expanded homes = .error .noHome := by
  obtain ⟨first, rest, at_home, none_known⟩ := homeless
  rw [expanded_of_startsAtHome at_home]
  cases known : homes.directory? first with
  | none => rfl
  | some directory => exact if_pos (none_known directory known)

theorem expanded_of_unfolds {homes : Homes} {text : String} {start : PathRoot}
    {parts : List String} (unfolds : Unfolds homes text start parts) :
    (ofString text).expanded homes = .ok ⟨start, parts⟩ := by
  cases unfolds with
  | plain not_home =>
    rw [ofString_eq, expanded]
    split
    next root first rest is_relative split =>
      refine if_neg fun tilde => not_home first rest ⟨?_, split, tilde⟩
      simpa [isAbsolute] using is_relative
    next => rfl
  | home at_home known no_tilde =>
    rw [expanded_of_startsAtHome at_home, known]
    exact if_neg no_tilde

theorem normal_of_unfolds {homes : Homes} {text : String} {start : PathRoot} {parts : List String}
    (unfolds : Unfolds homes text start parts) : Normal ⟨start, parts⟩ := by
  have read : ∀ text : String, ∀ part ∈ components text, Part part.toList := by
    intro text
    rw [components_eq]
    exact normal_ofString text
  intro part among
  cases unfolds with
  | plain => exact read text part among
  | @home _ rest directory at_home =>
    rcases List.mem_append.1 among with among | among
    · exact read directory part among
    · exact read text part (at_home.components_eq ▸ List.mem_cons_of_mem _ among)

/-- Only texts with a component start in a home directory. -/
theorem Homeless.ne_empty {homes : Homes} {text : String} (homeless : Homeless homes text) :
    text ≠ "" := by
  rintro rfl
  obtain ⟨first, rest, at_home, _⟩ := homeless
  have empty := at_home.components_eq
  simp [components_eq, ofString, pieces, isPart] at empty

end Path

/-! ## The place -/

namespace Location

variable {homes : Homes} {text : String}

/-- No text and an empty one. -/
def NoneGiven (override : Option String) : Prop := override = none ∨ override = some ""

theorem ofString_standard : Path.ofString ".env" = ⟨.relative, [".env"]⟩ := by
  simp [Path.ofString, Path.readRoot, Path.pieces, Path.isPart, List.filter_cons]

theorem find_of_noneGiven (homes : Homes) {override : Option String}
    (none_given : NoneGiven override) :
    find homes override = .ok (.inProject ⟨.relative, [".env"]⟩) := by
  rw [← ofString_standard]
  obtain rfl | rfl := none_given <;> rfl

theorem find_of_ne_empty (homes : Homes) (not_empty : text ≠ "") :
    find homes (some text) = ((Path.ofString text).expanded homes).map ofPath := by
  rw [find]
  exact not_empty

theorem find_of_homeless (homeless : Path.Homeless homes text) :
    find homes (some text) = .error .noHome := by
  rw [find_of_ne_empty homes homeless.ne_empty, Path.expanded_of_homeless homeless]
  rfl

/-- At no root, the place is below the project's directory. -/
theorem find_of_relative (not_empty : text ≠ "") {parts : List String}
    (unfolds : Path.Unfolds homes text .relative parts) :
    find homes (some text) = .ok (.inProject ⟨.relative, parts⟩) := by
  rw [find_of_ne_empty homes not_empty, Path.expanded_of_unfolds unfolds]
  rfl

theorem find_of_absolute (not_empty : text ≠ "") {start : PathRoot} {parts : List String}
    (unfolds : Path.Unfolds homes text start parts) (rooted : start ≠ .relative) :
    find homes (some text) = .ok (.absolute ⟨start, parts⟩) := by
  rw [find_of_ne_empty homes not_empty, Path.expanded_of_unfolds unfolds, Except.map, ofPath,
    if_pos]
  simpa [Path.isAbsolute] using rooted

/-- A place below the project's directory has the directory's components before its own. -/
theorem path_inProject (root : String) (parts : List String) :
    (inProject ⟨.relative, parts⟩).path (.ofString root) =
      ⟨leadingRoot root, components root ++ parts⟩ := by
  rw [path, Path.below, Path.ofString_eq]
  rfl

theorem inNormalForm_inProject {root : String} (rooted : leadingRoot root ≠ .relative)
    {parts : List String} (normal : Path.Normal ⟨.relative, parts⟩) :
    ((inProject ⟨.relative, parts⟩).path (.ofString root)).InNormalForm := by
  rw [path_inProject]
  refine Path.inNormalForm (by simpa [Path.isAbsolute] using rooted) fun part among => ?_
  rcases List.mem_append.1 among with among | among
  · exact Path.normal_ofString root part (by rwa [← Path.components_eq])
  · exact normal part among

/-- There is no place for a text in an unknown home directory, and any place is in normal form. -/
theorem find_cases (homes : Homes) {root : String} (rooted : leadingRoot root ≠ .relative)
    (override : Option String) :
    (find homes override = .error .noHome ∧
        ∃ text, override = some text ∧ Path.Homeless homes text) ∨
      ∃ location, find homes override = .ok location ∧
        (location.path (.ofString root)).InNormalForm := by
  by_cases none_given : NoneGiven override
  · refine .inr ⟨_, find_of_noneGiven homes none_given, inNormalForm_inProject rooted ?_⟩
    exact ofString_standard ▸ Path.normal_ofString ".env"
  cases override with
  | none => exact absurd (.inl rfl) none_given
  | some text =>
    have not_empty : text ≠ "" := fun empty => none_given (.inr (congrArg some empty))
    -- Whether a path is absolute is asked of what the text comes to, not of the text.
    obtain homeless | ⟨start, parts, unfolds⟩ := Path.homeless_or_unfolds homes text
    · exact .inl ⟨find_of_homeless homeless, text, rfl, homeless⟩
    have normal := Path.normal_of_unfolds unfolds
    by_cases relative : start = .relative
    · subst relative
      exact .inr ⟨_, find_of_relative not_empty unfolds, inNormalForm_inProject rooted normal⟩
    · have absolute : (⟨start, parts⟩ : Path).isAbsolute = true := by
        simpa [Path.isAbsolute] using relative
      exact .inr ⟨_, find_of_absolute not_empty unfolds relative,
        Path.inNormalForm absolute normal⟩

/-- Where the settings file is looked for is a matter of the text for it, of the home directories
and of the project's own directory, which starts at a root.

There is no place exactly if the text starts in a home directory that is unknown, and any place is a
path at a root and in normal form.  No text and an empty one mean the file `.env` of the project.
Any other text is unfolded: at no root, it means the components it comes to, below the project's
directory; at a root, the same path in every project.  How it is spelled does not matter. -/
theorem find_outcome (homes : Homes) {root : String} (rooted : leadingRoot root ≠ .relative) :
    (∀ override,
      (find homes override = .error .noHome ∧
          ∃ text, override = some text ∧ Path.Homeless homes text) ∨
        ∃ location, find homes override = .ok location ∧
          (location.path (.ofString root)).InNormalForm) ∧
    (∀ override, NoneGiven override →
      ∃ location, find homes override = .ok location ∧
        location.path (.ofString root) = ⟨leadingRoot root, components root ++ [".env"]⟩) ∧
    (∀ text,
      Path.Homeless homes text ∧ find homes (some text) = .error .noHome ∨
        ∃ start parts, Path.Unfolds homes text start parts) ∧
    (∀ text parts, text ≠ "" → Path.Unfolds homes text .relative parts →
      ∃ location, find homes (some text) = .ok location ∧
        location.path (.ofString root) = ⟨leadingRoot root, components root ++ parts⟩) ∧
    (∀ text start parts, text ≠ "" → Path.Unfolds homes text start parts → start ≠ .relative →
      ∃ location, find homes (some text) = .ok location ∧
        ∀ project, location.path project = ⟨start, parts⟩) ∧
    (∀ text other, text ≠ "" → other ≠ "" → leadingRoot text = leadingRoot other →
      components text = components other → find homes (some text) = find homes (some other)) := by
  refine ⟨find_cases homes rooted, fun override none_given => ?_, fun text => ?_,
    fun text parts not_empty unfolds => ?_, fun text start parts not_empty unfolds rooted => ?_,
    fun text other some_text some_other same_root same_components => ?_⟩
  · exact ⟨_, find_of_noneGiven homes none_given, path_inProject root [".env"]⟩
  · exact (Path.homeless_or_unfolds homes text).imp_left fun homeless =>
      ⟨homeless, find_of_homeless homeless⟩
  · exact ⟨_, find_of_relative not_empty unfolds, path_inProject root parts⟩
  · exact ⟨_, find_of_absolute not_empty unfolds rooted, fun project => rfl⟩
  · rw [find_of_ne_empty homes some_text, find_of_ne_empty homes some_other, Path.ofString_eq text,
      Path.ofString_eq other, same_root, same_components]

/-- A home directory with a slash at its end, behind a text with more slashes than it needs. -/
theorem find_outcome_home : leadingRoot "/srv/app" ≠ .relative ∧
    (∃ location, find ⟨some "/home/ann/", []⟩ (some "./~//x/../") = .ok location ∧
      ∀ project, location.path project = ⟨.single, ["home", "ann", "x", ".."]⟩) ∧
    ∃ location, find ⟨some "/home/ann/", []⟩ (some "conf//./a.env") = .ok location ∧
      location.path (.ofString "/srv/app") = ⟨.single, ["srv", "app", "conf", "a.env"]⟩ := by
  have rooted : leadingRoot "/srv/app" ≠ .relative := by simp [leadingRoot]
  obtain ⟨-, -, -, below, fixed, -⟩ := find_outcome ⟨some "/home/ann/", []⟩ rooted
  refine ⟨rooted, ?_, ?_⟩
  · have at_home : Path.StartsAtHome "./~//x/../" "~" ["x", ".."] := by
      refine ⟨by simp [leadingRoot], ?_, by simp⟩
      simp [Path.components_eq, Path.ofString, Path.pieces, Path.isPart, List.filter_cons]
    have start : Homes.rootOf "/home/ann/" = .single := by
      simp [Homes.rootOf, leadingRoot]
    have parts : components "/home/ann/" = ["home", "ann"] := by
      simp [Path.components_eq, Path.ofString, Path.pieces, Path.isPart, List.filter_cons]
    have unfolds : Path.Unfolds ⟨some "/home/ann/", []⟩ "./~//x/../" _ _ :=
      .home at_home rfl (by simp)
    rw [start, parts] at unfolds
    exact fixed _ _ _ (by decide) unfolds (by decide)
  · have start : leadingRoot "conf//./a.env" = .relative := by simp [leadingRoot]
    have parts : components "conf//./a.env" = ["conf", "a.env"] := by
      simp [Path.components_eq, Path.ofString, Path.pieces, Path.isPart, List.filter_cons]
    have unfolds : Path.Unfolds ⟨some "/home/ann/", []⟩ "conf//./a.env" _ _ :=
      .plain fun first rest at_home => by
        obtain ⟨rfl, -⟩ := List.cons.inj (parts.symm.trans at_home.components_eq)
        exact absurd at_home.tilde (by simp)
    rw [start, parts] at unfolds
    exact below _ _ (by decide) unfolds

end Location

end SqlAssembly
