import SqlAssembly.Proofs.Options.Taken
import SqlAssembly.Proofs.Row
import SqlAssembly.Proofs.Session.Outcomes
import SqlAssembly.Proofs.Session.Requests

/-!
# Flaws of options

A mapping that is given for options has *flaws*: an ordering that is no mapping,
a text that is none, a number of rows that is no number, a key that names no
field.  `Options.flaws` lists them as a reader would, with the values at fault,
and knows nothing of locations, rules and messages; `Flaw.problem` is what a
report says of a flaw.

A mapping is taken exactly if it has no flaws.  Otherwise the error quotes a
report of all of them, in the order of the fields and then of the keys
(`Session.coerce_row`).

A list and a tuple are sequences of texts or have flaws, item by item.  A
record has items as well, its fields with their values, none of which is a text
(`Session.coerce_record_for_projections`).
-/

namespace SqlAssembly

section

/-! ## Values that fit -/

/-- Whether a value stands for a text: it is one, or a direction, or octets that encode one. -/
def Value.isTextual : Value → Bool
  | .str _ => true
  | .direction _ => true
  | .bytes octets => (String.fromUTF8? ⟨octets.toArray⟩).isSome
  | _ => false

/-- The items of a value that goes for a list: a list's, a tuple's, a prepared statement's two
parts, and the fields of a record, each as a pair. -/
def Value.listed? : Value → Option (List Value)
  | .list _ items => some items
  | .tuple _ items => some items
  | .prepared sql cell params => some [.str sql, .tuple cell params]
  | .options _ kind _ sort limit offset projections =>
    some (kind.fields.map fun f =>
      .tuple none [.str f.name, field sort limit offset projections f])
  | _ => none

variable [Machine]

namespace Options

/-! ## Flaws -/

/-- What is wrong with a mapping, and the value that is at fault. -/
inductive Flaw
  /-- The ordering is no mapping. -/
  | ordering (v : Value)
  /-- A column of the ordering is no text. -/
  | column (name : Value)
  /-- The direction of a column is no text. -/
  | direction (name v : Value)
  /-- A number of rows is no integer, or negative. -/
  | count (f : OptionField) (v : Value)
  /-- The columns to return are no sequence. -/
  | columns (v : Value)
  /-- The column to return at a position is no text. -/
  | returned (position : Nat) (v : Value)
  /-- A key names no field. -/
  | unknown (name : String) (v : Value)
  deriving Inhabited, Repr

/-- The flaw that is there unless the value at fault stands for a text. -/
def flawUnlessText (v : Value) (flaw : Flaw) : List Flaw := if v.isTextual then [] else [flaw]

/-- The flaws of an ordering; of each column, that of the column comes first. -/
def orderingFlaws : Value → List Flaw
  | .null => []
  | .mapping _ entries => entries.flatMap fun entry =>
    flawUnlessText entry.1 (.column entry.1) ++ flawUnlessText entry.2 (.direction entry.1 entry.2)
  | v => [.ordering v]

/-- The flaw of a number of rows. -/
def countFlaws (f : OptionField) : Value → List Flaw
  | .null => []
  | .int n => if 0 ≤ n then [] else [.count f (.int n)]
  | v => [.count f v]

/-- The flaws of the columns to return. -/
def columnsFlaws : Value → List Flaw
  | .null => []
  | v => match v.listed? with
    | some items => items.zipIdx.flatMap fun item => flawUnlessText item.1 (.returned item.2 item.1)
    | none => [.columns v]

/-- The flaws of a value for a field. -/
def fieldFlaws : OptionField → Value → List Flaw
  | .sort => orderingFlaws
  | .limit => countFlaws .limit
  | .offset => countFlaws .offset
  | .projections => columnsFlaws

/-- The flaw of a key. -/
def keyFlaw? (kind : OptionsKind) (binding : String × Value) : Option Flaw :=
  if binding.1 ∈ kind.fields.map OptionField.name then none else some (.unknown binding.1 binding.2)

/-- Every flaw of a mapping: those of the fields that are there, then those of its keys. -/
def flaws (kind : OptionsKind) (row : Row) : List Flaw :=
  (kind.fields.flatMap fun f => match row.bindings.get? f.name with
    | some v => fieldFlaws f v
    | none => []) ++ row.bindings.filterMap (keyFlaw? kind)

/-! ## Reports of flaws -/

example :
    let row : Row := ⟨none, [("projections", .null), ("limit", .bool true),
      ("sort", .mapping none [(.int 1, .null), (.str "a", .direction .asc)]), ("offset", .int 0)],
      by decide⟩
    flaws .orderLimit row = [.column (.int 1), .direction (.int 1) .null,
      .count .limit (.bool true), .unknown "projections" .null] := rfl

/-- The rule that a value breaks that stands for no text. -/
def textRule : Value → Rule
  | .bytes _ => .decodableText
  | _ => .text

/-- The rule that a value breaks that is no number of rows. -/
def countRule : Value → Rule
  | .int _ => .notNegative
  | _ => .integer

/-- What a report says of a flaw. -/
def Flaw.problem : Flaw → Problem
  | .ordering v => ⟨["sort"], .mapping, v⟩
  | .column name => ⟨["sort", keyPart name, "[key]"], textRule name, name⟩
  | .direction name v => ⟨["sort", keyPart name], textRule v, v⟩
  | .count f v => ⟨[f.name], countRule v, v⟩
  | .columns v => ⟨["projections"], .sequence, v⟩
  | .returned position v => ⟨["projections", toString position], textRule v, v⟩
  | .unknown name v => ⟨[name], .knownName, v⟩

omit [Machine] in
/-- The problem of a value for a text is there unless the value stands for one. -/
theorem textProblem?_eq (location : List String) (v : Value) :
    (textProblem? location v).toList =
      if v.isTextual then [] else [⟨location, textRule v, v⟩] := by
  cases v with
  | bytes octets =>
    cases encoded : String.fromUTF8? ⟨octets.toArray⟩ <;>
      simp [textProblem?, asText, Value.text?, Value.octets?, decoded?, Value.isTextual, textRule,
        encoded]
  | _ => rfl

/-- The problem of a value for a text, where it lies in a mapping, is that of its flaw. -/
theorem map_within_textProblem? {part : String} {location : List String} {v : Value} (flaw : Flaw)
    (told : flaw.problem = ⟨part :: location, textRule v, v⟩) :
    (textProblem? location v).toList.map (·.within part) =
      (flawUnlessText v flaw).map Flaw.problem := by
  rw [textProblem?_eq, flawUnlessText]
  cases v.isTextual with
  | true => rfl
  | false => exact congrArg (fun problem => [problem]) told.symm

/-! ### Fields -/

/-- The problems with which a value is refused. -/
def problemsOf : Except (List Problem) Value → List Problem
  | .ok _ => []
  | .error problems => problems

omit [Machine] in
/-- A value that is accepted unless there are problems is refused with just these. -/
theorem problemsOf_gathered (accepted : Value) (problems : List Problem) :
    problemsOf (match problems with
      | [] => .ok accepted
      | problems => .error problems) = problems := by
  cases problems <;> rfl

theorem problemsOf_readSort_mapping (cell : Cell) (entries : Entries) :
    problemsOf (readSort (.mapping cell entries)) = entries.flatMap entryProblems :=
  problemsOf_gathered _ _

theorem problemsOf_readSort (v : Value) :
    (problemsOf (readSort v)).map (·.within "sort") = (orderingFlaws v).map Flaw.problem := by
  cases v with
  | mapping cell entries =>
    rw [problemsOf_readSort_mapping, orderingFlaws, List.map_flatMap, List.map_flatMap]
    congr 1
    funext entry
    rw [entryProblems, List.map_append, List.map_append,
      map_within_textProblem? (.column entry.1) rfl,
      map_within_textProblem? (.direction entry.1 entry.2) rfl]
  | _ => rfl

theorem problemsOf_readCount {f : OptionField} (v : Value) :
    (problemsOf (readCount v)).map (·.within f.name) = (countFlaws f v).map Flaw.problem := by
  cases v with
  | int n =>
    by_cases count : 0 ≤ n
    · simp [readCount, countFlaws, count, problemsOf]
    · simp [readCount, countFlaws, count, problemsOf, Problem.within, Flaw.problem, countRule]
  | _ => rfl

theorem map_itemProblems (position : Nat) (items : List Value) :
    (itemProblems position items).map (·.within "projections") =
      ((items.zipIdx position).flatMap fun item =>
        flawUnlessText item.1 (.returned item.2 item.1)).map Flaw.problem := by
  induction items generalizing position with
  | nil => rfl
  | cons item rest ih =>
    rw [itemProblems, List.zipIdx_cons, List.flatMap_cons, List.map_append, List.map_append, ih,
      map_within_textProblem? (.returned position item) rfl]

omit [Machine] in
theorem listItems?_eq_listed? (v : Value) : listItems? v = v.listed? := by
  cases v with
  | options _ kind _ _ _ _ _ => cases kind <;> rfl
  | _ => rfl

omit [Machine] in
theorem problemsOf_readProjections_of_listed {v : Value} {items : List Value}
    (listed : v.listed? = some items) : problemsOf (readProjections v) = itemProblems 0 items := by
  rw [readProjections, listItems?_eq_listed?, listed]
  cases v with
  | list _ _ | tuple _ _ | prepared _ _ _ | options _ _ _ _ _ _ _ => exact problemsOf_gathered _ _
  | _ => cases listed

omit [Machine] in
theorem columnsFlaws_of_listed {v : Value} {items : List Value} (listed : v.listed? = some items) :
    columnsFlaws v =
      items.zipIdx.flatMap fun item => flawUnlessText item.1 (.returned item.2 item.1) := by
  cases v with
  | list _ _ | tuple _ _ | prepared _ _ _ | options _ _ _ _ _ _ _ =>
    cases listed
    rfl
  | _ => cases listed

theorem problemsOf_readProjections (v : Value) :
    (problemsOf (readProjections v)).map (·.within "projections") =
      (columnsFlaws v).map Flaw.problem := by
  cases listed : v.listed? with
  | some items =>
    rw [problemsOf_readProjections_of_listed listed, columnsFlaws_of_listed listed, map_itemProblems]
  | none =>
    cases v with
    | list _ _ | tuple _ _ | prepared _ _ _ | options _ _ _ _ _ _ _ => cases listed
    | _ => rfl

theorem problemsOf_readField (f : OptionField) (v : Value) :
    (problemsOf (readField f v)).map (·.within f.name) = (fieldFlaws f v).map Flaw.problem := by
  cases f with
  | sort => exact problemsOf_readSort v
  | limit | offset => exact problemsOf_readCount v
  | projections => exact problemsOf_readProjections v

/-! ### Mappings -/

theorem fieldProblems_eq (row : Row) (f : OptionField) :
    fieldProblems row.entries f = (match row.bindings.get? f.name with
      | some v => fieldFlaws f v
      | none => []).map Flaw.problem := by
  have value : row.entries.getText? f.name = row.bindings.get? f.name := row.get?_entries f.name
  unfold fieldProblems readEntry
  rw [value]
  cases row.bindings.get? f.name with
  | none => rfl
  | some v =>
    rw [← problemsOf_readField]
    dsimp only
    cases readField f v <;> rfl

omit [Machine] in
theorem field?_eq_none_iff (kind : OptionsKind) (name : String) :
    kind.field? name = none ↔ name ∉ kind.fields.map OptionField.name := by
  simp [OptionsKind.field?]

theorem keyProblem?_eq (kind : OptionsKind) (binding : String × Value) :
    keyProblem? kind (.str binding.1, binding.2) =
      (keyFlaw? kind binding).map Flaw.problem := by
  unfold keyProblem? keyFlaw?
  cases named : kind.field? binding.1 with
  | none => simp [Value.text?, named, (field?_eq_none_iff kind binding.1).1 named, Flaw.problem]
  | some f =>
    have known : binding.1 ∈ kind.fields.map OptionField.name := by
      by_contra absent
      rw [(field?_eq_none_iff kind binding.1).2 absent] at named
      cases named
    simp [Value.text?, named, known]

/-- What is found wrong with a mapping is what its flaws say. -/
theorem problems_eq (kind : OptionsKind) (row : Row) :
    problems kind row.entries = (flaws kind row).map Flaw.problem := by
  have keys : row.entries.filterMap (keyProblem? kind) =
      (row.bindings.filterMap (keyFlaw? kind)).map Flaw.problem := by
    rw [Row.entries, List.filterMap_map, List.map_filterMap]
    congr 1
    funext binding
    exact keyProblem?_eq kind binding
  rw [problems, flaws, List.map_append, List.map_flatMap, keys]
  congr 2
  funext f
  exact fieldProblems_eq row f

omit [Machine] in
/-- A mapping with no flaw in a field has only those of its keys. -/
theorem flaws_of_fields {kind : OptionsKind} {row : Row}
    (unflawed : ∀ f v, row.bindings.get? (OptionField.name f) = some v → fieldFlaws f v = []) :
    flaws kind row = row.bindings.filterMap (keyFlaw? kind) := by
  refine List.append_left_eq_self.2 (List.flatMap_eq_nil_iff.2 fun f _ => ?_)
  cases found : row.bindings.get? f.name with
  | none => rfl
  | some v => exact unflawed f v found

/-! ## Errors -/

/-- What the error of a mapping with flaws says: the report of all of them, in their order, with
their number at the head of its text. -/
structure Reports (kind : OptionsKind) (statement : String) (found : List Flaw)
    (error : InvalidArgument) : Prop where
  statement : error.statement = statement
  argument : error.argument = "options"
  cause : error.cause = some ⟨kind.name, found.map Flaw.problem⟩
  detail : error.detail = "invalid options: " ++ "\n".intercalate
    ((toString found.length ++ " validation error" ++ (if found.length = 1 then "" else "s")
      ++ " for " ++ kind.name) :: found.map fun flaw => flaw.problem.text)

theorem reports_withProblems (kind : OptionsKind) (statement : String) (entries : Entries)
    (found : List Flaw) :
    Reports kind statement found
      (withProblems statement entries ⟨kind.name, found.map Flaw.problem⟩) where
  statement := rfl
  argument := rfl
  cause := rfl
  detail := by
    simp only [withProblems, Report.message, Report.heading, List.length_map, List.map_map]
    rfl

section

variable {kind : OptionsKind} {row : Row} (statement : String)

/-- A mapping without flaws describes its record. -/
theorem ofEntries_of_no_flaws (unflawed : flaws kind row = []) :
    ofEntries kind row.entries = .ok (record kind row.entries) := by
  rw [ofEntries, problems_eq, unflawed]
  rfl

/-- A mapping without flaws is taken as the record that it describes. -/
theorem coerce_of_no_flaws (unflawed : flaws kind row = []) :
    coerce row.toValue kind statement = pure (record kind row.entries) := by
  have taken : ofArgument kind statement row.toValue = .ok (record kind row.entries) := by
    rw [Row.toValue, ofArgument_mapping, ofEntries_of_no_flaws unflawed]
  funext desk
  exact coerce_eq_ok_iff.2 ⟨congrArg Except.toOption taken, rfl⟩

/-- A mapping with flaws is refused with the report of them. -/
theorem coerce_of_flaws (flawed : flaws kind row ≠ []) :
    coerce row.toValue kind statement = Build.refuse .options []
      (withProblems statement row.entries ⟨kind.name, (flaws kind row).map Flaw.problem⟩) := by
  have made : ofEntries kind row.entries =
      .error ⟨kind.name, (flaws kind row).map Flaw.problem⟩ := by
    rw [ofEntries, problems_eq]
    obtain ⟨first, rest, found⟩ := List.exists_cons_of_ne_nil flawed
    rw [found]
    rfl
  have refused : ofArgument kind statement row.toValue = .error
      (withProblems statement row.entries ⟨kind.name, (flaws kind row).map Flaw.problem⟩) := by
    rw [Row.toValue, ofArgument_mapping, made]
  have needed : asNeeded kind row.toValue = .ok row.toValue := rfl
  rw [coerce, needed]
  funext desk
  simp only [Build.bind_apply, Build.lift_apply, refused]

end

end Options

namespace Session

open Options (flaws Reports)

/-- A mapping is taken exactly if it has no flaws, as a record of the very kind; otherwise the
error reports all of them. -/
theorem coerce_row (kind : OptionsKind) (statement : String) (row : Row) (session : Session) :
    let outcome := (work (Options.coerce row.toValue kind statement) session).1
    (flaws kind row = [] ∧ ∃ o, outcome = .ok o ∧ o.kind = kind) ∨
      (flaws kind row ≠ [] ∧ ∃ error, outcome = .error (.invalidArgument error) ∧
        Reports kind statement (flaws kind row) error) := by
  intro outcome
  by_cases unflawed : flaws kind row = []
  · have taken : outcome = .ok (Options.record kind row.entries) :=
      congrArg (fun operation => (work operation session).1)
        (Options.coerce_of_no_flaws statement unflawed)
    exact .inl ⟨unflawed, _, taken, rfl⟩
  · have simple (error : InvalidArgument) : (error.event .options []).IsSimple :=
      Request.event_isSimple error (by decide)
    have refused : outcome = .error (.invalidArgument (Options.withProblems statement row.entries
        ⟨kind.name, (flaws kind row).map Options.Flaw.problem⟩)) := by
      show (work (Options.coerce row.toValue kind statement) session).1 = _
      rw [Options.coerce_of_flaws statement unflawed, work_fst_of_isSimple]
      · rfl
      · exact List.forall_mem_singleton.2 (simple _)
    exact .inr ⟨unflawed, _, refused, Options.reports_withProblems kind statement row.entries _⟩

end Session

end

namespace Session

/-- A record in the place of the columns to return is neither a list nor a tuple, and yet it has a
flaw for each of its fields and not one for itself. -/
theorem coerce_record_for_projections :
    let given := (Options.blank .orderLimit).toValue
    let row : Row := ⟨none, [("projections", given)], by decide⟩
    given.kind ∉ [Kind.null, .list, .tuple, .prepared] ∧
      ∃ error report,
        (work (Options.coerce row.toValue .find "find") default).1 =
          .error (.invalidArgument error) ∧
        error.cause = some report ∧
        report.problems.map Problem.location =
          [["projections", "0"], ["projections", "1"], ["projections", "2"]] :=
  ⟨by decide, _, _, rfl, rfl, by decide⟩

end Session

end SqlAssembly
