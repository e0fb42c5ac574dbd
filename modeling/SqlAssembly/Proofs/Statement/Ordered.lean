import SqlAssembly.Proofs.Options.Conversion
import SqlAssembly.Proofs.Settings.Sifting
import SqlAssembly.Proofs.Statement.Marks
import SqlAssembly.Proofs.Value.Limits

/-!
# Statements that order rows

An ordering comes into a statement by its options: under its name in a mapping,
or as a field of a record (`GivesOrdering`).  It is checked and copied on the
way, and a record of another kind is made plain first, but what is written from
it stays the same (`Options.ordering_of_taken?`).

So the operations that write an ordering (`Writes`) sift it, from the ordering
alone to a whole statement, and strictness is a mere sieve for all of them
(`Session.strictness_sifts`).
-/

namespace SqlAssembly

section

/-- Options that give an ordering: as the sort of a mapping, or of a record that was given it. -/
inductive GivesOrdering (row : Row) : Value → Prop
  | mapping {cell : Cell} {entries : Entries}
    (found : entries.getText? OptionField.sort.name = some row.toValue) :
    GivesOrdering row (.mapping cell entries)
  | record {o : Options} (given : .sort ∈ o.given) (sort : o.sort = row.toValue) :
    GivesOrdering row o.toValue

/-! ## Plain orderings -/

theorem Value.IsToken.plainWithin_eq {v : Value} (token : v.IsToken) (around : List Nat) :
    v.plainWithin around = .ok v := by
  cases token <;> rfl

variable [Machine]

/-- Texts and directions under texts can be written. -/
theorem Value.IsToken.entryLimit?_eq_none (column : String) {v : Value} (token : v.IsToken) :
    Clause.entryLimit? (.str column, v) = none := by
  cases token <;> simp [Clause.entryLimit?, Clause.directionToken]

namespace Row

/-- The row in no cell. -/
def outside (row : Row) : Row := { row with cell := none }

omit [Machine] in
theorem plainSort_toValue {row : Row} (tokens : ∀ v ∈ row.values, v.IsToken) :
    Options.plainSort row.toValue = .ok row.outside.toValue :=
  Options.plainSort_ofBindings id row.distinct
    (fun _ among => (tokens _ (List.mem_map_of_mem among)).plainWithin_eq []) row.cell

end Row

/-! ## Orderings of options -/

namespace Options

variable {kind : OptionsKind} {row : Row}

omit [Machine] in
/-- A sort that was given is found in the plain form. -/
theorem getText?_givenEntries_of_given {given : List OptionField} (has : .sort ∈ given)
    {sort : Value} (full : sort.kind ≠ .null) (limit offset projections : Value) :
    (Value.givenEntries kind given sort limit offset projections).getText?
      OptionField.sort.name = some sort := by
  have kept : (given.contains .sort &&
      (Value.field sort limit offset projections .sort).kind != .null) = true := by
    rw [List.contains_iff_mem.2 has, Bool.true_and]
    exact bne_iff_ne.2 full
  have first : kind.fields = .sort :: kind.fields.tail := by cases kind <;> rfl
  rw [Value.givenEntries, first]
  simp only [List.filter_cons, kept, if_true, List.map_cons]
  rfl

/-- From a record that a mapping describes the same is written as from the sort in the mapping. -/
theorem ordering_of_ofEntries {entries : Entries} {o : Options}
    (described : ofEntries kind entries = .ok o) (tokens : ∀ v ∈ row.values, v.IsToken)
    (found : entries.getText? OptionField.sort.name = some row.toValue) :
    Clause.ordering o.sort = Clause.ordering row.toValue := by
  obtain rfl := eq_record_of_ofEntries described
  obtain ⟨w, read, written⟩ := readSort_of_fits (Or.inr ⟨row, rfl, tokens⟩)
  have has : kind.fields.contains .sort = true := by cases kind <;> rfl
  have sort : (record kind entries).sort = w := by
    show recordValue kind entries .sort = w
    simp only [recordValue, has, if_true, fieldValue, readEntry, found, read]
  rw [sort, ← written none, (readField_of_read read).1]

/-- From a record that is taken for options the same is written as from the sort that they give. -/
theorem ordering_of_taken? {statement : String} {options : Value} {o : Options}
    (taken : taken? kind statement options = some o) (gives : GivesOrdering row options)
    (tokens : ∀ v ∈ row.values, v.IsToken) :
    Clause.ordering o.sort = Clause.ordering row.toValue := by
  cases gives with
  | mapping found => exact ordering_of_ofEntries (ofEntries_of_taken? taken) tokens found
  | record given sort =>
    rcases record_cases_of_taken? taken with ⟨_, rfl⟩ | ⟨_, entries, plain, described⟩
    · rw [sort]
    · rw [plain_toValue_eq_bind] at plain
      obtain ⟨_, sorted, plain⟩ := bind_eq_ok_iff.1 plain
      obtain ⟨projections, _, made⟩ := bind_eq_ok_iff.1 plain
      rw [sort, Row.plainSort_toValue tokens] at sorted
      cases sorted
      cases made
      have full : row.outside.toValue.kind ≠ .null := by rintro ⟨⟩
      have outside : Clause.ordering o.sort = Clause.ordering row.outside.toValue :=
        ordering_of_ofEntries described tokens (getText?_givenEntries_of_given given full _ _ _)
      -- The cell of an ordering makes no difference to what is written.
      exact outside

end Options

/-! ## Statements -/

namespace Statement

variable {g : Guarded} {o : Options} {head condition : String} {cell : Cell} {entries : Entries}

/-- A statement with options that comes to an ordering sifts it. -/
theorem Guarded.build_sifts (taken : g.record? = some o) (written : g.head o = .ok head)
    (stated : Clause.condition g.criteria = .ok condition) (some_entries : entries ≠ [])
    (same : Clause.ordering o.sort = Clause.ordering (.mapping cell entries)) :
    Build.Sifts g.build entries := by
  have coerced : Options.coerce g.options g.kind g.name = pure o :=
    funext fun desk => Options.coerce_eq_ok_iff.2 ⟨taken, rfl⟩
  have build : g.build = Clause.suffix o.sort o.limit o.offset >>= fun suffix =>
      (liftM g.size : Build Nat) >>= fun size =>
        Build.emit (g.event size) >>= fun _ => pure (Clause.joined [head, condition, suffix]) := by
    rw [Guarded.build, coerced]
    show g.buildWith o = _
    rw [Guarded.buildWith, written, stated]
    rfl
  rw [build]
  refine (Clause.suffix_sifts some_entries same o.limit o.offset).andThen fun suffix => ?_
  exact (Build.Heeds.lift _).andThen fun size => (Build.Heeds.emit _).andThen fun _ => .pure _

end Statement

/-- An operation that writes an ordering, with the columns and directions to order by. -/
inductive Writes : Entries → Build String → Prop
  | ordering {cell : Cell} {entries : Entries} :
    Writes entries (Clause.ordering (.mapping cell entries))
  | suffix {cell : Cell} {entries : Entries} (limit offset : Value) :
    Writes entries (Clause.suffix (.mapping cell entries) limit offset)
  | find {row : Row} {options : Value} (tokens : ∀ v ∈ row.values, v.IsToken)
    (gives : GivesOrdering row options) (table criteria : Value) :
    Writes row.entries (Statement.find table criteria options)
  | update {row : Row} {options : Value} (tokens : ∀ v ∈ row.values, v.IsToken)
    (gives : GivesOrdering row options) (table criteria updates : Value) :
    Writes row.entries (Statement.update table criteria updates options)
  | delete {row : Row} {options : Value} (tokens : ∀ v ∈ row.values, v.IsToken)
    (gives : GivesOrdering row options) (table criteria : Value) :
    Writes row.entries (Statement.delete table criteria options)

namespace Writes

variable {entries : Entries} {op : Build String}

/-- An operation that succeeds is an ordering, the end of a statement, or a statement with options
that give the ordering. -/
theorem cases_of_ok (writes : Writes entries op) {desk after : Desk} {text : String}
    (built : op desk = (.ok text, after)) :
    (∃ cell, op = Clause.ordering (.mapping cell entries)) ∨
      (∃ cell limit offset, op = Clause.suffix (.mapping cell entries) limit offset) ∨
      ∃ (row : Row) (g : Statement.Guarded), entries = row.entries ∧
        (∀ v ∈ row.values, v.IsToken) ∧ GivesOrdering row g.options ∧ op = g.build := by
  cases writes with
  | ordering => exact Or.inl ⟨_, rfl⟩
  | suffix limit offset => exact Or.inr (Or.inl ⟨_, limit, offset, rfl⟩)
  | @find row _ tokens gives table criteria =>
    exact Or.inr (Or.inr ⟨row, _, rfl, tokens, gives, Statement.find_eq_build ..⟩)
  | @update row _ tokens gives table criteria updates =>
    have given : updates.isGiven = true := by
      by_contra not_given
      rw [Statement.update_of_not_given (Bool.not_eq_true _ ▸ not_given)] at built
      cases built
    exact Or.inr (Or.inr ⟨row, _, rfl, tokens, gives, Statement.update_eq_build given ..⟩)
  | @delete row _ tokens gives table criteria =>
    exact Or.inr (Or.inr ⟨row, _, rfl, tokens, gives, Statement.delete_eq_build ..⟩)

/-- An operation that succeeds sifts the ordering that it writes. -/
theorem sifts (writes : Writes entries op) (some_entries : entries ≠ []) {desk after : Desk}
    {text : String} (built : op desk = (.ok text, after)) : Build.Sifts op entries := by
  rcases writes.cases_of_ok built with ⟨cell, rfl⟩ | ⟨cell, limit, offset, rfl⟩ |
    ⟨row, g, rfl, tokens, gives, rfl⟩
  · exact Clause.ordering_sifts some_entries rfl
  · exact Clause.suffix_sifts some_entries rfl limit offset
  · obtain ⟨o, head, condition, taken, written, stated, _⟩ := g.build_eq_ok built
    exact Statement.Guarded.build_sifts taken written stated some_entries
      (Options.ordering_of_taken? taken gives tokens)

end Writes

namespace Session

open Clause (FirstStopped Passes Sifted)

/-- An ordering is written with its columns in their order, sifted by whether directions have to be
one of the two. -/
theorem ordering_sifted (cell : Cell) {entries : Entries} (some_entries : entries ≠ [])
    (session : Session) :
    Sifted session.desk.isStrict entries (Clause.orderingOf (Clause.allColumns entries))
      (work (Clause.ordering (.mapping cell entries)) session).1 := by
  rw [Clause.ordering_eq_sieve cell some_entries, work_fst_asking]
  exact Build.sifted_sieve _ (Reply.settled_of_isSimple (List.forall_mem_nil _) session)

/-- An ordering is written, with its columns in their order, if all of them pass.  The first one that
does not is what it ends with: by a limit of the machine, strict or not, or else by its direction,
which only strictness refuses.  What comes after it does not matter.

An operation that orders and is written in one session is written alike in every other one, or there
ends with the first entry that does not pass.  That is no limit of the machine then, for all entries
can be written. -/
theorem strictness_sifts :
    (∀ (cell : Cell) (entries : Entries), entries ≠ [] → ∀ session : Session,
      let text := "ORDER BY " ++ ",".intercalate (entries.map fun entry =>
        entry.1.display ++ " " ++ (Clause.directionToken entry.2).display)
      Sifted session.desk.isStrict entries text
        (work (Clause.ordering (.mapping cell entries)) session).1) ∧
      (∀ (entries : Entries) (op : Build String), Writes entries op → entries ≠ [] →
        ∀ session other : Session, session.journal.SameThresholds other.journal →
          session.clock = other.clock → ∀ text, (work op session).1 = .ok text →
            (∀ entry ∈ entries, Clause.entryLimit? entry = none) ∧
              Sifted other.desk.isStrict entries text (work op other).1) ∧
      ∀ (strict : Bool) (entries : Entries), (∀ entry ∈ entries, Passes strict entry) ↔
        ¬ ∃ column direction, FirstStopped strict entries column direction := by
  refine ⟨fun cell entries some_entries => ordering_sifted cell some_entries, ?_,
    fun strict entries => Clause.pass_iff⟩
  intro entries op writes some_entries session other thresholds time text built
  obtain ⟨_, at_desk⟩ := desk_of_work built
  have sifts := writes.sifts some_entries at_desk
  exact ⟨fun entry among => (sifts.passes built entry among).1, sifts.sifted thresholds time built⟩

end Session

end

namespace Session

open Clause (FirstStopped Passes)

/-- A session that has read settings with strictness. -/
def checked : Session :=
  { (default : Session) with cache := some ⟨"INFO", false, "logs", true⟩ }

/-- A session that has read settings without strictness. -/
def trusting : Session :=
  { (default : Session) with cache := some ⟨"INFO", false, "logs", false⟩ }

/-- A delete is written alike with strictness; a find is refused there for the second of three
directions. -/
theorem strictness_sifts_both :
    let kept : Row := ⟨none, [("age", .direction .desc), ("name", .str "asc")], by decide⟩
    let refused : Row :=
      ⟨none, [("age", .str "Desc"), ("name", .str "up"), ("city", .str "down")], by decide⟩
    let options (row : Row) := Value.ofEntries [(.str "sort", row.toValue)]
    let delete := Statement.delete (.str "people") (Value.ofEntries []) (options kept)
    let find := Statement.find (.str "people") (Value.ofEntries []) (options refused)
    let deletion := "DELETE FROM people WHERE 1 ORDER BY age DESC,name asc"
    Writes kept.entries delete ∧ Writes refused.entries find ∧
      (work delete trusting).1 = .ok deletion ∧ (work delete checked).1 = .ok deletion ∧
      (work find trusting).1 =
        .ok "SELECT * FROM people WHERE 1 ORDER BY age Desc,name up,city down" ∧
      FirstStopped true refused.entries (.str "name") (.str "up") ∧
      (work find checked).1 =
        .error (.invalidArgument (Clause.unsupportedDirection (.str "name") (.str "up"))) := by
  intro kept refused options delete find deletion
  have writes_kept : Writes kept.entries delete := by
    refine .delete (fun v among => ?_) (.mapping rfl) _ _
    rcases List.mem_pair.1 among with rfl | rfl
    · exact .direction .desc
    · exact .text "asc"
  have writes_refused : Writes refused.entries find := by
    refine .find (fun v among => ?_) (.mapping rfl) _ _
    rcases List.mem_cons.1 among with rfl | among
    · exact .text "Desc"
    · rcases List.mem_pair.1 among with rfl | rfl
      · exact .text "up"
      · exact .text "down"
  have deleted : (work delete trusting).1 = .ok deletion := by rfl
  have found : (work find trusting).1 =
      .ok "SELECT * FROM people WHERE 1 ORDER BY age Desc,name up,city down" := by rfl
  have same : trusting.journal.SameThresholds checked.journal := ⟨rfl, rfl⟩
  have passes {column token : String} (supported : Clause.IsSupported (.str token)) :
      Passes true (.str column, .str token) :=
    ⟨(Value.IsToken.text token).entryLimit?_eq_none column, fun _ => supported⟩
  have all_pass : ∀ entry ∈ kept.entries, Passes true entry := by
    intro entry among
    rcases List.mem_pair.1 among with rfl | rfl
    · exact ⟨(Value.IsToken.direction .desc).entryLimit?_eq_none _, fun _ => by decide⟩
    · exact passes (by decide)
  have first : FirstStopped true refused.entries (.str "name") (.str "up") :=
    ⟨[(.str "age", .str "Desc")], [(.str "city", .str "down")], rfl,
      List.forall_mem_singleton.2 (passes (by decide)),
      fun passes => absurd (passes.2 rfl) (by decide)⟩
  have on : checked.desk.isStrict = true := rfl
  have alike := strictness_sifts.2.1 _ _ writes_kept (List.cons_ne_nil _ _) _ checked same rfl
    _ deleted
  have refusal := strictness_sifts.2.1 _ _ writes_refused (List.cons_ne_nil _ _) _ checked same rfl
    _ found
  rw [on] at alike refusal
  have refused_there := refusal.2.refused (.str "name") (.str "up") first
    ((Value.IsToken.text "up").entryLimit?_eq_none "name")
  exact ⟨writes_kept, writes_refused, deleted, alike.2.passed all_pass, found, first,
    refused_there⟩

/-- A column that cannot be written keeps an ordering from being written, strict or not. -/
theorem ordering_unwritten :
    let ordering (column : Value) := Clause.ordering (.mapping none [(column, .str "ASC")])
    (work (ordering .tall) trusting).1 = .error (.unwritable .depth) ∧
      (work (ordering .tall) checked).1 = .error (.unwritable .depth) ∧
      (work (ordering (.int Value.long)) trusting).1 = .error (.unwritable .digits) := by
  intro ordering
  have ended {column : Value} {limit : Value.WritingLimit} (stopped : column.limit? = some limit)
      (session : Session) :
      (work (ordering column) session).1 = .error (.unwritable limit) := by
    have here : Clause.entryLimit? (column, .str "ASC") = some limit := by
      rw [Clause.entryLimit?, stopped, Option.some_or]
    refine (ordering_sifted none (List.cons_ne_nil _ _) session).unwritable _ _
      ⟨[], [], rfl, List.forall_mem_nil _, fun passes => ?_⟩ limit here
    rw [Passes, here] at passes
    exact Option.some_ne_none _ passes.1
  exact ⟨ended Value.limit?_tall _, ended Value.limit?_tall _, ended Value.limit?_long _⟩

example :
    let entries : Entries := [(.str "a", .str "asc"), (.str "b", .str "up"), (.str "c", .int 3)]
    (work (Clause.ordering (.mapping none entries)) checked).1 =
      .error (.invalidArgument (Clause.unsupportedDirection (.str "b") (.str "up"))) := rfl

end Session

end SqlAssembly
