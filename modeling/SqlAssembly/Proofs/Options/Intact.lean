import SqlAssembly.Clause
import SqlAssembly.Options.Plain
import SqlAssembly.Proofs.Bindings
import SqlAssembly.Proofs.Options.Taken

/-!
# Records as they were made

A record is *intact* as long as what is in its mapping and in its list is as it
was when the record was made: texts, all of them.  Every record that a mapping
describes is intact (`intact_of_ofEntries`).

An intact record can be made plain, and its columns can be written
(`plain_of_intact`, `projection_of_intact`).  So an argument that is intact if
it is a record is taken, and intact again, or refused (`coerce_cases`,
`asNeeded_of_intact`).
-/

namespace SqlAssembly

/-! ## Mappings of texts -/

namespace Entries

section

variable {α : Type}

/-- Values under texts, as the entries of a mapping. -/
def ofBindings (value : α → Value) (pairs : Bindings α) : Entries :=
  pairs.map fun pair => (.str pair.1, value pair.2)

variable (value : α → Value) (pairs : Bindings α)

theorem put_ofBindings (key : String) (a : α) :
    (ofBindings value pairs).put (.str key) (value a) = ofBindings value (pairs.put key a) := by
  induction pairs with
  | nil => rfl
  | cons pair rest ih =>
    obtain ⟨old, current⟩ := pair
    simp only [ofBindings, List.map_cons, put, Bindings.put, Value.same_str, Bool.beq_comm] at ih ⊢
    split
    · rfl
    · rw [ih, List.map_cons]

/-- Values put one after the other under texts are values under texts. -/
theorem ofList_ofBindings :
    ofList (ofBindings value pairs) =
      ofBindings value (pairs.foldl (fun kept pair => kept.put pair.1 pair.2) []) := by
  have kept (before : Bindings α) :
      (ofBindings value pairs).foldl (fun entries pair => entries.put pair.1 pair.2)
          (ofBindings value before) =
        ofBindings value (pairs.foldl (fun kept pair => kept.put pair.1 pair.2) before) := by
    induction pairs generalizing before with
    | nil => rfl
    | cons pair rest ih =>
      show (ofBindings value rest).foldl _
        ((ofBindings value before).put (.str pair.1) (value pair.2)) = _
      rw [put_ofBindings, ih, List.foldl_cons]
  exact kept []

end

/-- Texts under texts, as the entries of a mapping. -/
def ofTexts (pairs : Bindings String) : Entries := pairs.map fun pair => (.str pair.1, .str pair.2)

/-- Texts put one after the other under texts are texts under texts. -/
theorem ofList_ofTexts (pairs : Bindings String) :
    ofList (ofTexts pairs) = ofTexts (pairs.foldl (fun kept pair => kept.put pair.1 pair.2) []) :=
  ofList_ofBindings .str pairs

end Entries

namespace Options

/-! ## Plain records -/

/-- The ordering of a record as plain data. -/
def plainSort : Value → Except Fault Value
  | .mapping _ entries =>
    (Value.plainEntries [] entries).map (Value.ofEntries ∘ Entries.ofList)
  | v => .ok v

/-- The projections of a record as plain data. -/
def plainProjections : Value → Except Fault Value
  | .list _ items => (Value.plainItems [] items).map Value.ofItems
  | v => .ok v

theorem plain_toValue_eq_bind (o : Options) :
    o.toValue.plain = plainSort o.sort >>= fun sort =>
      plainProjections o.projections >>= fun projections =>
        pure (Value.ofEntries
          (Value.givenEntries o.kind o.given sort o.limit o.offset projections)) := by
  obtain ⟨cell, kind, given, sort, limit, offset, projections⟩ := o
  cases sort <;> cases projections <;> rfl

theorem plainEntries_ofBindings {α : Type} (value : α → Value) {around : List Nat}
    {pairs : Bindings α}
    (plain : ∀ pair ∈ pairs, (value pair.2).plainWithin around = .ok (value pair.2)) :
    Value.plainEntries around (Entries.ofBindings value pairs) =
      .ok (Entries.ofBindings value pairs) := by
  induction pairs with
  | nil => rfl
  | cons pair rest ih =>
    show Value.plainEntries around
      ((.str pair.1, value pair.2) :: Entries.ofBindings value rest) = _
    rw [Value.plainEntries, ih fun other among => plain other (List.mem_cons_of_mem _ among),
      plain pair List.mem_cons_self]
    rfl

theorem plainEntries_ofTexts (around : List Nat) (pairs : Bindings String) :
    Value.plainEntries around (Entries.ofTexts pairs) = .ok (Entries.ofTexts pairs) :=
  plainEntries_ofBindings .str fun _ _ => rfl

theorem plainItems_map_str (around : List Nat) (texts : List String) :
    Value.plainItems around (texts.map .str) = .ok (texts.map .str) := by
  induction texts with
  | nil => rfl
  | cons text rest ih =>
    rw [List.map_cons, Value.plainItems, ih]
    rfl

/-! ## Intact records -/

/-- A well-made record in which all is as it was when it was made. -/
structure Intact (o : Options) : Prop where
  /-- The ordering is a mapping of texts, if there is one. -/
  sort : o.sort = .null ∨ ∃ cell pairs, o.sort = .mapping cell (Entries.ofTexts pairs)
  /-- The limit is a number of rows. -/
  limit : IsCount o.limit
  /-- The offset is a number of rows. -/
  offset : IsCount o.offset
  /-- The projections are a list of texts, if there are any, and only a find has some. -/
  projections : o.projections = .null ∨
    o.kind = .find ∧ ∃ cell, ∃ names : List String, o.projections = .list cell (names.map .str)

theorem intact_blank (kind : OptionsKind) : (blank kind).Intact :=
  ⟨Or.inl rfl, Or.inl rfl, Or.inl rfl, Or.inl rfl⟩

theorem textEntries_eq_ofTexts (entries : Entries) :
    textEntries entries =
      Entries.ofList (Entries.ofTexts (entries.map fun e => (textOf e.1, textOf e.2))) := by
  simp [textEntries, Entries.ofTexts, Function.comp_def]

variable [Machine]

/-- An ordering that was read has texts, under texts that are all different. -/
theorem readSort_eq_texts {v w : Value} (read : readSort v = .ok w) :
    w = .null ∨ ∃ pairs : Bindings String, (pairs.map Prod.fst).Nodup ∧
      w = Value.ofEntries (Entries.ofTexts pairs) := by
  unfold readSort at read
  split at read
  · cases read
    exact Or.inl rfl
  · next entries =>
    split at read
    · cases read
      rw [textEntries_eq_ofTexts, Entries.ofList_ofTexts]
      exact Or.inr ⟨_, Bindings.nodup_foldl_put _ [] List.nodup_nil, rfl⟩
    · cases read
  · cases read

omit [Machine] in
theorem readProjections_eq_texts {v w : Value} (read : readProjections v = .ok w) :
    w = .null ∨ ∃ names : List String, w = Value.ofItems (names.map .str) := by
  unfold readProjections at read
  split at read
  · cases read
    exact Or.inl rfl
  · next items _ _ =>
    split at read
    · cases read
      exact Or.inr ⟨items.map textOf, by rw [List.map_map]; rfl⟩
    · cases read
  · cases read

/-- A record that a mapping describes is intact. -/
theorem intact_of_ofEntries {kind : OptionsKind} {entries : Entries} {o : Options}
    (described : ofEntries kind entries = .ok o) : o.Intact := by
  have wellMade := wellMade_of_ofEntries described
  obtain rfl := eq_record_of_ofEntries described
  refine ⟨?_, wellMade.limit, wellMade.offset, ?_⟩
  · rcases recordValue_eq_null_or_read kind entries .sort with empty | ⟨_, v, read⟩
    · exact Or.inl empty
    · exact (readSort_eq_texts read).imp id fun ⟨pairs, _, texts⟩ => ⟨none, pairs, texts⟩
  · rcases recordValue_eq_null_or_read kind entries .projections with empty | ⟨_, v, read⟩
    · exact Or.inl empty
    · rcases wellMade.projections with none_given | ⟨find, _⟩
      · exact Or.inl none_given
      · exact (readProjections_eq_texts read).imp id fun ⟨names, texts⟩ =>
          ⟨find, none, names, texts⟩

/-! ## What can be done with intact records -/

variable {o : Options}

omit [Machine] in
theorem plain_of_intact (intact : o.Intact) :
    ∃ entries, o.toValue.plain = .ok (Value.ofEntries entries) := by
  have sort : ∃ plain, plainSort o.sort = .ok plain := by
    rcases intact.sort with empty | ⟨cell, pairs, texts⟩
    · exact ⟨.null, by rw [empty]; rfl⟩
    · exact ⟨_, by rw [texts, plainSort, plainEntries_ofTexts]; rfl⟩
  have projections : ∃ plain, plainProjections o.projections = .ok plain := by
    rcases intact.projections with empty | ⟨_, cell, names, texts⟩
    · exact ⟨.null, by rw [empty]; rfl⟩
    · exact ⟨_, by rw [texts, plainProjections, plainItems_map_str]; rfl⟩
  obtain ⟨sort, sorted⟩ := sort
  obtain ⟨projections, projected⟩ := projections
  rw [plain_toValue_eq_bind, sorted, projected]
  exact ⟨_, rfl⟩

omit [Machine] in
theorem projection_of_intact (intact : o.Intact) :
    ∃ text, Clause.projection o.projections = .ok text := by
  rcases intact.projections with empty | ⟨_, cell, names, texts⟩
  · exact ⟨"*", by rw [empty]; rfl⟩
  · rw [texts, Clause.projection]
    split
    · exact ⟨_, Value.joinItems_map_str "," names⟩
    · exact ⟨_, rfl⟩

omit [Machine] in
/-- An intact record can be made into what is needed, and so can all else. -/
theorem asNeeded_of_intact (kind : OptionsKind) {options : Value}
    (intact : ∀ o, ofValue? options = some o → o.Intact) :
    ∃ needed, asNeeded kind options = .ok needed := by
  cases given : ofValue? options with
  | none =>
    refine ⟨options, ?_⟩
    cases options with
    | options => cases given
    | _ => rfl
  | some o =>
    rw [ofValue?_eq_some_iff] at given
    subst given
    by_cases same : o.kind = kind
    · subst same
      exact ⟨_, asNeeded_toValue o⟩
    · obtain ⟨entries, plain⟩ := plain_of_intact (intact o (ofValue?_toValue o))
      refine ⟨Value.ofEntries entries, ?_⟩
      rw [← plain]
      exact if_neg same

/-- A record taken for an argument is intact, if a record given for it is. -/
theorem intact_of_taken? {kind : OptionsKind} {statement : String} {options : Value}
    (intact : ∀ o, ofValue? options = some o → o.Intact)
    (taken : taken? kind statement options = some o) : o.Intact := by
  rcases taken?_eq_some taken with rfl | ⟨same, _⟩ | ⟨entries, described⟩
  · exact intact_blank kind
  · exact intact o (by rw [same, ofValue?_toValue])
  · exact intact_of_ofEntries described

/-! ## Refusals -/

/-- An argument is refused under its name and for the statement. -/
theorem ofArgument_eq_error {kind : OptionsKind} {statement : String} {options : Value}
    {error : InvalidArgument} (refused : ofArgument kind statement options = .error error) :
    error.statement = statement ∧ error.argument = "options" := by
  unfold ofArgument at refused
  split at refused
  · cases refused
  · cases refused
  · split at refused
    · split at refused
      · cases refused
      · cases refused
        exact ⟨rfl, rfl⟩
    · cases refused
      exact ⟨rfl, rfl⟩

/-- An argument is taken, or refused with its event, or cannot be made into what is needed. -/
theorem coerce_cases (kind : OptionsKind) (statement : String) (options : Value) (desk : Desk) :
    (∃ o, taken? kind statement options = some o ∧
        coerce options kind statement desk = (.ok o, desk)) ∨
      (∃ error : InvalidArgument, error.statement = statement ∧ error.argument = "options" ∧
        coerce options kind statement desk =
          (.error (.invalidArgument error), desk.record (error.event .options []))) ∨
      ∃ fault, asNeeded kind options = .error fault ∧
        coerce options kind statement desk = (.error fault, desk) := by
  unfold coerce taken?
  rw [Build.bind_apply, Build.lift_apply]
  cases asNeeded kind options with
  | error fault => exact Or.inr (Or.inr ⟨fault, rfl, rfl⟩)
  | ok needed =>
    cases made : ofArgument kind statement needed with
    | ok o => exact Or.inl ⟨o, by simp [made, Except.toOption], by simp [made]⟩
    | error error =>
      obtain ⟨named, argued⟩ := ofArgument_eq_error made
      exact Or.inr (Or.inl ⟨error, named, argued, by simp [made]⟩)

end Options

end SqlAssembly
