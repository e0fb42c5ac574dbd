import SqlAssembly.Options.Coercion
import SqlAssembly.Proofs.Outcome

/-!
# The record taken for an argument

An operation that takes an options argument either refuses it or takes a record
for it.  Which of the two, and which record, is a matter of the argument alone
(`taken?`), and taking leaves the desk as it was (`coerce_eq_ok_iff`).

A record that a mapping describes is *well made*: its limit and its offset are
numbers of rows, if they are there, its ordering is a mapping and its
projections are a list.  The fields of a record cannot be replaced.  What is in
its mapping and in its list may be, so nothing is said of that.  An `Argument`
is any value whatever, as long as a record is well made; what is taken for one
is then well made, too (`wellMade_of_taken?`).
-/

namespace SqlAssembly.Options

/-! ## What is taken -/

variable [Machine]

/-- The record that an argument is taken for, if it is not refused. -/
def taken? (kind : OptionsKind) (statement : String) (options : Value) : Option Options :=
  match asNeeded kind options with
  | .ok needed => (ofArgument kind statement needed).toOption
  | .error _ => none

/-- Taking an argument succeeds with its record and leaves the desk as it was. -/
theorem coerce_eq_ok_iff {kind : OptionsKind} {statement : String} {options : Value}
    {desk after : Desk} {o : Options} :
    coerce options kind statement desk = (.ok o, after) ↔
      taken? kind statement options = some o ∧ desk = after := by
  unfold coerce taken?
  rw [Build.bind_eq_ok_iff]
  simp only [Build.lift_eq_ok_iff]
  cases asNeeded kind options with
  | error fault => simp
  | ok needed =>
    cases made : ofArgument kind statement needed with
    | error error => simp [made, Except.toOption]
    | ok taken =>
      constructor
      · rintro ⟨_, _, ⟨same, rfl⟩, later⟩
        cases same
        simp only [made] at later
        obtain ⟨rfl, rfl⟩ := Build.pure_eq_ok_iff.1 later
        exact ⟨by simp [made, Except.toOption], rfl⟩
      · rintro ⟨same, rfl⟩
        simp only [made, Except.toOption, Option.some.injEq] at same
        subst same
        exact ⟨needed, desk, ⟨rfl, rfl⟩, by simp [made]⟩

/-- A record of the needed kind is taken as it is. -/
theorem coerce_own (o : Options) (statement : String) : coerce o.toValue o.kind statement = pure o := by
  funext desk
  refine coerce_eq_ok_iff.2 ⟨?_, rfl⟩
  rw [taken?, asNeeded_toValue]
  simp only [ofArgument_toValue, Except.toOption]

omit [Machine] in
/-- The plain form of a record is a mapping. -/
theorem plain_toValue_eq_ok {o : Options} {plain : Value} (made : o.toValue.plain = .ok plain) :
    ∃ entries, plain = Value.ofEntries entries := by
  unfold toValue Value.plain Value.plainWithin at made
  dsimp only at made
  split at made
  all_goals
    obtain ⟨_, _, made⟩ := bind_eq_ok_iff.1 made
    split at made
    all_goals
      obtain ⟨_, _, made⟩ := bind_eq_ok_iff.1 made
      cases made
      exact ⟨_, rfl⟩

/-- A mapping is taken for the record that it describes. -/
theorem ofEntries_of_taken? {kind : OptionsKind} {statement : String} {cell : Cell}
    {entries : Entries} {o : Options}
    (taken : taken? kind statement (.mapping cell entries) = some o) :
    ofEntries kind entries = .ok o := by
  have taken : (ofArgument kind statement (.mapping cell entries)).toOption = some o := taken
  rw [ofArgument_mapping] at taken
  cases described : ofEntries kind entries with
  | error report => simp [described, Except.toOption] at taken
  | ok found =>
    simp only [described, Except.toOption, Option.some.injEq] at taken
    rw [taken]

/-- A record is taken for itself, or for the one that its plain form describes. -/
theorem record_cases_of_taken? {kind : OptionsKind} {statement : String} {o made : Options}
    (taken : taken? kind statement o.toValue = some made) :
    o.kind = kind ∧ o = made ∨ o.kind ≠ kind ∧ ∃ entries,
      o.toValue.plain = .ok (Value.ofEntries entries) ∧ ofEntries kind entries = .ok made := by
  by_cases own : o.kind = kind
  · subst own
    rw [taken?, asNeeded_toValue] at taken
    simp only [ofArgument_toValue, Except.toOption, Option.some.injEq] at taken
    exact Or.inl ⟨rfl, taken⟩
  · have needed : asNeeded kind o.toValue = o.toValue.plain := if_neg own
    rw [taken?, needed] at taken
    cases plain : o.toValue.plain with
    | error fault => simp [plain] at taken
    | ok mapping =>
      obtain ⟨entries, rfl⟩ := plain_toValue_eq_ok plain
      simp only [plain] at taken
      exact Or.inr ⟨own, entries, rfl, ofEntries_of_taken? taken⟩

omit [Machine] in
/-- A record of another kind is made into a mapping, and all else stays as it is. -/
theorem asNeeded_eq_ok {kind : OptionsKind} {options needed : Value}
    (made : asNeeded kind options = .ok needed) :
    (needed = options ∧ ∀ o, ofValue? options = some o → o.kind = kind) ∨
      ∃ entries, needed = Value.ofEntries entries := by
  cases options with
  | options cell given fields sort limit offset projections =>
    simp only [asNeeded, Value.kind] at made
    split at made
    · next same =>
      cases made
      refine Or.inl ⟨rfl, ?_⟩
      rintro o record
      cases record
      exact same
    · exact Or.inr (plain_toValue_eq_ok (o := ⟨cell, given, fields, sort, limit, offset,
        projections⟩) made)
  | _ =>
    cases made
    exact Or.inl ⟨rfl, fun o record => by cases record⟩

/-- A record taken for an argument is a blank one, the argument itself or one that a mapping
describes. -/
theorem taken?_eq_some {kind : OptionsKind} {statement : String} {options : Value} {o : Options}
    (taken : taken? kind statement options = some o) :
    o = blank kind ∨ (options = o.toValue ∧ o.kind = kind) ∨
      ∃ entries, ofEntries kind entries = .ok o := by
  unfold taken? at taken
  split at taken
  · next needed made =>
    cases found : ofArgument kind statement needed with
    | error error => simp [found, Except.toOption] at taken
    | ok record =>
      simp only [found, Except.toOption, Option.some.injEq] at taken
      subst taken
      unfold ofArgument at found
      split at found
      · cases found
        exact Or.inl rfl
      · next isRecord _ =>
        cases found
        rw [ofValue?_eq_some_iff] at isRecord
        subst isRecord
        rcases asNeeded_eq_ok made with ⟨rfl, same⟩ | ⟨entries, mapping⟩
        · exact Or.inr (Or.inl ⟨rfl, same record rfl⟩)
        · cases mapping
      · split at found
        · split at found
          · next described =>
            cases found
            exact Or.inr (Or.inr ⟨_, described⟩)
          · cases found
        · cases found
  · cases taken

/-! ## Well-made records -/

/-- A number of rows: none is given, or one that is not negative. -/
def IsCount (v : Value) : Prop := v = .null ∨ ∃ n : Nat, v = .int n

omit [Machine] in
/-- A number of rows that is given displays in digits. -/
theorem IsCount.display_eq {v : Value} (count : IsCount v) (given : v.kind ≠ .null) :
    ∃ n : Nat, v = .int n ∧ v.display = n.repr := by
  rcases count with rfl | ⟨n, rfl⟩
  · exact absurd rfl given
  · exact ⟨n, rfl, Value.display_int n⟩

/-- A record with fields as they are when it is made; its mapping and its list may hold anything. -/
structure WellMade (o : Options) : Prop where
  /-- The ordering is a mapping, if there is one. -/
  sort : o.sort = .null ∨ ∃ cell entries, o.sort = .mapping cell entries
  /-- The limit is a number of rows. -/
  limit : IsCount o.limit
  /-- The offset is a number of rows. -/
  offset : IsCount o.offset
  /-- The projections are a list, if there are any, and only a find has some. -/
  projections : o.projections = .null ∨
    o.kind = .find ∧ ∃ cell items, o.projections = .list cell items

/-- Any value as an options argument; if it is a record, it is a well-made one. -/
structure Argument where
  /-- The value. -/
  value : Value
  /-- It is well made if it is a record. -/
  wellMade : ∀ o, ofValue? value = some o → o.WellMade

omit [Machine] in
theorem wellMade_blank (kind : OptionsKind) : (blank kind).WellMade :=
  ⟨Or.inl rfl, Or.inl rfl, Or.inl rfl, Or.inl rfl⟩

theorem readSort_eq_ok {v w : Value} (read : readSort v = .ok w) :
    w = .null ∨ ∃ cell entries, w = .mapping cell entries := by
  unfold readSort at read
  split at read
  · cases read
    exact Or.inl rfl
  · split at read
    · cases read
      exact Or.inr ⟨_, _, rfl⟩
    · cases read
  · cases read

omit [Machine] in
theorem readCount_eq_ok {v w : Value} (read : readCount v = .ok w) : IsCount w := by
  unfold readCount at read
  split at read
  · cases read
    exact Or.inl rfl
  · next n =>
    split at read
    · next notNegative =>
      cases read
      exact Or.inr ⟨n.toNat, by rw [Int.toNat_of_nonneg notNegative]⟩
    · cases read
  · cases read

omit [Machine] in
theorem readProjections_eq_ok {v w : Value} (read : readProjections v = .ok w) :
    w = .null ∨ ∃ cell items, w = .list cell items := by
  unfold readProjections at read
  split at read
  · cases read
    exact Or.inl rfl
  · split at read
    · cases read
      exact Or.inr ⟨_, _, rfl⟩
    · cases read
  · cases read

/-- The value for a field is empty or has been read for it. -/
theorem recordValue_eq_null_or_read (kind : OptionsKind) (entries : Entries) (f : OptionField) :
    recordValue kind entries f = .null ∨
      f ∈ kind.fields ∧ ∃ v, readField f v = .ok (recordValue kind entries f) := by
  unfold recordValue
  split
  · next among =>
    unfold fieldValue readEntry
    cases entries.getText? f.name with
    | none => exact Or.inl rfl
    | some v =>
      cases read : readField f v with
      | error problems => exact Or.inl (by simp [read])
      | ok w => exact Or.inr ⟨by simpa using among, v, by simp [read]⟩
  · exact Or.inl rfl

/-- A mapping that is accepted describes its record. -/
theorem eq_record_of_ofEntries {kind : OptionsKind} {entries : Entries} {o : Options}
    (described : ofEntries kind entries = .ok o) : o = record kind entries := by
  unfold ofEntries at described
  split at described
  · exact (Except.ok.inj described).symm
  · cases described

/-- A record that a mapping describes is well made. -/
theorem wellMade_of_ofEntries {kind : OptionsKind} {entries : Entries} {o : Options}
    (described : ofEntries kind entries = .ok o) : o.WellMade := by
  obtain rfl := eq_record_of_ofEntries described
  refine ⟨?_, ?_, ?_, ?_⟩
  · rcases recordValue_eq_null_or_read kind entries .sort with empty | ⟨_, v, read⟩
    · exact Or.inl empty
    · exact readSort_eq_ok read
  · rcases recordValue_eq_null_or_read kind entries .limit with empty | ⟨_, v, read⟩
    · exact Or.inl empty
    · exact readCount_eq_ok read
  · rcases recordValue_eq_null_or_read kind entries .offset with empty | ⟨_, v, read⟩
    · exact Or.inl empty
    · exact readCount_eq_ok read
  · rcases recordValue_eq_null_or_read kind entries .projections with empty | ⟨among, v, read⟩
    · exact Or.inl empty
    · rcases readProjections_eq_ok read with empty | list
      · exact Or.inl empty
      · cases kind with
        | orderLimit => simp [OptionsKind.fields] at among
        | find => exact Or.inr ⟨rfl, list⟩

/-- What is taken for an argument is well made. -/
theorem wellMade_of_taken? {kind : OptionsKind} {statement : String} {argument : Argument}
    {o : Options} (taken : taken? kind statement argument.value = some o) : o.WellMade := by
  rcases taken?_eq_some taken with rfl | ⟨same, _⟩ | ⟨entries, described⟩
  · exact wellMade_blank kind
  · exact argument.wellMade o (by rw [same, ofValue?_toValue])
  · exact wellMade_of_ofEntries described

/-- What is taken for an argument is of the kind that is asked for. -/
theorem kind_of_taken? {kind : OptionsKind} {statement : String} {options : Value} {o : Options}
    (taken : taken? kind statement options = some o) : o.kind = kind := by
  rcases taken?_eq_some taken with rfl | ⟨_, same⟩ | ⟨entries, described⟩
  · rfl
  · exact same
  · rw [eq_record_of_ofEntries described]
    rfl

end SqlAssembly.Options
