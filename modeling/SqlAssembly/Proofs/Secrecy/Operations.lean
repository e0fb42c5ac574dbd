import SqlAssembly.Proofs.Secrecy.Keys

/-!
# Values stay hidden

Two calls of an operation that differ only in the values under the keys of their
mappings cannot be told apart by the text of the statement, by the message of an
error or by the journal (`Session.work_hides_values`).  The texts are equal since
they are built from keys alone, and as many values are bound in both.
-/

namespace SqlAssembly

open Value (SameKeys SameRows)

/-- One operation on mappings with the same keys, with the same table and options: it builds or
prepares a statement with a condition, or prepares an insert of rows. -/
inductive Operation.SameColumns : Operation Value → Operation Value → Prop
  | count {table criteria criteria' : Value} (same : SameKeys criteria criteria') :
      SameColumns (.count table criteria) (.count table criteria')
  | find {table criteria criteria' options : Value} (same : SameKeys criteria criteria') :
      SameColumns (.find table criteria options) (.find table criteria' options)
  | update {table criteria criteria' updates updates' options : Value}
      (same : SameKeys criteria criteria') (updated : SameKeys updates updates') :
      SameColumns (.update table criteria updates options)
        (.update table criteria' updates' options)
  | delete {table criteria criteria' options : Value} (same : SameKeys criteria criteria') :
      SameColumns (.delete table criteria options) (.delete table criteria' options)
  | prepareCount {table criteria criteria' : Value} (same : SameKeys criteria criteria') :
      SameColumns (.prepareCount table criteria) (.prepareCount table criteria')
  | prepareFind {table criteria criteria' options : Value} (same : SameKeys criteria criteria') :
      SameColumns (.prepareFind table criteria options) (.prepareFind table criteria' options)
  | prepareInsert {table rows rows' : Value} (same : SameRows rows rows') :
      SameColumns (.prepareInsert table rows) (.prepareInsert table rows')
  | prepareUpdate {table criteria criteria' updates updates' options : Value}
      (same : SameKeys criteria criteria') (updated : SameKeys updates updates') :
      SameColumns (.prepareUpdate table criteria updates options)
        (.prepareUpdate table criteria' updates' options)
  | prepareDelete {table criteria criteria' options : Value} (same : SameKeys criteria criteria') :
      SameColumns (.prepareDelete table criteria options) (.prepareDelete table criteria' options)

/-- The refused values in which errors of an operation may differ: the rows of an insert, if they
have the same keys; the new values of an update, which are refused only if there are none. -/
def Operation.Differ : Operation Value → Value → Value → Prop
  | .prepareInsert .. => SameKeys
  | .update .. | .prepareUpdate .. => fun v w =>
    ∃ cell cell', v = .mapping cell [] ∧ w = .mapping cell' []
  | _ => fun _ _ => False

/-- Results with one statement: its text alone, or with as many values to bind. -/
inductive Value.SameStatement : Value → Value → Prop
  | text (sql : String) : SameStatement (.str sql) (.str sql)
  | prepared {sql : String} {params params' : List Value}
      (lengths : params.length = params'.length) :
      SameStatement (.prepared sql none params) (.prepared sql none params')

section

/-! ## Statements -/

variable [Machine]

theorem Clause.columns_congr {v w : Value} (same : SameKeys v w) : columns v = columns w := by
  rw [columns, columns, same.items_eq]

theorem Clause.condition_congr {criteria criteria' : Value} (same : SameKeys criteria criteria') :
    condition criteria = condition criteria' := by
  rw [condition, condition, same.isGiven_eq, columns_congr same]

theorem Clause.assignments_congr {updates updates' : Value} (same : SameKeys updates updates') :
    assignments updates = assignments updates' := by
  rw [assignments, assignments, columns_congr same]

namespace Statement

variable {differ : Value → Value → Prop} {criteria criteria' updates updates' : Value}

theorem count_congr (table : Value) (same : SameKeys criteria criteria') :
    count table criteria = count table criteria' := by
  rw [count, count, Clause.condition_congr same, same.size_eq]

theorem find_congr (table options : Value) (same : SameKeys criteria criteria') :
    find table criteria options = find table criteria' options := by
  rw [find, find, Clause.condition_congr same, same.size_eq]

theorem delete_congr (table options : Value) (same : SameKeys criteria criteria') :
    delete table criteria options = delete table criteria' options := by
  rw [delete, delete, Clause.condition_congr same, same.size_eq]

/-- Updates are the same too, but for the mapping in the error of an update of nothing. -/
theorem update_alike (table options : Value)
    (none_differ : ∀ cell cell', differ (.mapping cell []) (.mapping cell' []))
    (same : SameKeys criteria criteria') (updated : SameKeys updates updates') :
    Build.Alike differ Eq (update table criteria updates options)
      (update table criteria' updates' options) := by
  rw [update, update, Clause.condition_congr same, same.size_eq, Clause.assignments_congr updated,
    updated.size_eq, updated.isGiven_eq]
  cases given : updates'.isGiven with
  | true =>
    apply Build.Alike.refl
    intro text
    rfl
  | false =>
    cases updated with
    | refl =>
      apply Build.Alike.refl
      intro text
      rfl
    | @mapping cell cell' entries entries' keys =>
      have none_there : entries' = [] := by simpa using given
      subst none_there
      have none_before : entries = [] := List.map_eq_nil_iff.1 keys
      subst none_before
      exact .refuse (none_differ cell cell') .update []

end Statement

/-! ## Prepared statements -/

/-- Prepared statements with one text and as many values to bind. -/
def Prepared.Like (p q : Prepared) : Prop := p.sql = q.sql ∧ p.params.length = q.params.length

namespace Prepared

variable {differ : Value → Value → Prop} {criteria criteria' updates updates' : Value}

omit [Machine] in
/-- A statement prepared with values that are bound after it has been built. -/
theorem bound_alike {text text' : Build String} {vs ws : List Value}
    (texts : Build.Alike differ Eq text text') (same : List.Forall₂ SameKeys vs ws) :
    Build.Alike differ Like
      (text >>= fun sql => liftM (Binding.values vs) >>= fun params => pure ⟨sql, params⟩)
      (text' >>= fun sql => liftM (Binding.values ws) >>= fun params => pure ⟨sql, params⟩) := by
  refine texts.bind ?_
  rintro sql _ rfl
  refine (Build.Alike.lift (SameKeys.values_alike same)).bind fun params params' lengths => ?_
  exact .pure ⟨rfl, lengths⟩

/-! ## Prepared inserts -/

/-- Errors of rows with the same keys, for the same reason, or no errors. -/
inductive LikeError : Option InvalidArgument → Option InvalidArgument → Prop
  | none : LikeError none none
  | some {error : InvalidArgument} {v : Value} (same : SameKeys error.value v) :
      LikeError (some error) (some { error with value := v })

omit [Machine] in
theorem members_congr {row row' : Value} (same : SameKeys row row') :
    members row = members row' := by
  rw [members, members, same.items_eq]

theorem rowError?_alike {row row' : Value} (same : SameKeys row row') (expected : List Value)
    (index : Nat) :
    Alike differ LikeError (rowError? expected index row)
      (rowError? expected index row') := by
  rw [rowError?, rowError?, members_congr same]
  refine Alike.bind_same (members row') fun columns => ?_
  split
  · exact .ok .none
  · refine Alike.bind_same (Value.sorted columns) fun columns => ?_
    refine Alike.bind_same (Value.ofItems columns).written fun _ => ?_
    refine Alike.bind_same _ fun expected => ?_
    exact Alike.bind_same _ fun _ => .ok (.some same)

theorem rowsError?_alike {rows rows' : List Value} (same : List.Forall₂ SameKeys rows rows')
    (expected : List Value) (index : Nat) :
    Alike differ LikeError (rowsError? expected index rows)
      (rowsError? expected index rows') := by
  induction same generalizing index with
  | nil => exact .ok .none
  | cons first _ ih =>
    refine (rowError?_alike first expected index).bind fun error error' like => ?_
    cases like with
    | none => exact ih (index + 1)
    | some same => exact .ok (.some same)

/-- The columns of an insert are the same, and so is the error of the first row that has one. -/
theorem insertColumns_alike {rows rows' : Value} (same : SameRows rows rows') :
    Alike differ (fun checked checked' =>
        checked.1 = checked'.1 ∧ LikeError checked.2 checked'.2)
      (insertColumns rows) (insertColumns rows') := by
  refine (same.item_alike (.int 0)).bind fun first first' same_first => ?_
  rw [members_congr same_first]
  refine Alike.bind_same (members first') fun fields => ?_
  refine same.itemsAfterFirst_alike.bind fun rest rest' same_rest => ?_
  refine (rowsError?_alike same_rest fields 1).bind fun error error' like => ?_
  exact .ok ⟨rfl, like⟩

/-- The columns that a row lacks come from its keys. -/
theorem missing_congr {row row' : Value} (same : SameKeys row row') (columns : List Value) :
    Binding.missing row columns = Binding.missing row' columns := by
  induction columns with
  | nil => rfl
  | cons column rest ih => rw [Binding.missing, Binding.missing, same.holds_eq, ih]

omit [Machine] in
theorem picked_alike {row row' : Value} (same : SameKeys row row') (columns : List Value) :
    Alike differ (fun values values' => values.length = values'.length)
      (Binding.picked row columns) (Binding.picked row' columns) := by
  induction columns with
  | nil => exact .ok rfl
  | cons column rest ih =>
    refine (same.item_alike column).bind fun value value' _ => ?_
    exact ih.bind fun more more' lengths => .ok (congrArg Nat.succ lengths)

theorem rowValues_alike (rows_differ : ∀ v w, SameKeys v w → differ v w) {row row' : Value}
    (same : SameKeys row row') (fields : Value) (index : Nat) :
    Build.Alike differ (fun values values' => values.length = values'.length)
      (Binding.rowValues fields index row) (Binding.rowValues fields index row') := by
  rw [Binding.rowValues, Binding.rowValues]
  refine Build.Alike.bind_same _ fun columns => ?_
  rw [missing_congr same]
  refine Build.Alike.bind_same _ fun lacking => ?_
  split
  · exact .lift (picked_alike same columns)
  · refine Build.Alike.bind_same _ fun names => ?_
    exact .refuse (rows_differ row row' same) .parameters _

theorem rowsValues_alike (rows_differ : ∀ v w, SameKeys v w → differ v w) {rows rows' : List Value}
    (same : List.Forall₂ SameKeys rows rows') (fields : Value) (index : Nat) :
    Build.Alike differ (fun values values' => values.length = values'.length)
      (Binding.rowsValues fields index rows) (Binding.rowsValues fields index rows') := by
  induction same generalizing index with
  | nil => exact .pure rfl
  | cons first _ ih =>
    refine (rowValues_alike rows_differ first fields index).bind fun these these' lengths => ?_
    refine (ih (index + 1)).bind fun more more' more_lengths => .pure ?_
    rw [List.length_append, List.length_append, lengths, more_lengths]

theorem insert_alike (rows_differ : ∀ v w, SameKeys v w → differ v w) (table : Value)
    {rows rows' : Value} (same : SameRows rows rows') :
    Build.Alike differ Like (insert table rows) (insert table rows') := by
  rw [insert, insert, same.isGiven_eq, same.size_eq]
  split
  · apply Build.Alike.refl
    intro p
    exact ⟨rfl, rfl⟩
  · refine (Build.Alike.lift (insertColumns_alike same)).bind ?_
    rintro ⟨fields, error⟩ ⟨_, error'⟩ ⟨rfl, like⟩
    cases like with
    | some same_row => exact .refuse (rows_differ _ _ same_row) .prepared []
    | none =>
      refine Build.Alike.bind_same _ fun size => ?_
      refine Build.Alike.bind_same _ fun sql => ?_
      have flattened : Build.Alike differ (fun values values' => values.length = values'.length)
          (Binding.flattened (Value.ofItems fields) rows)
          (Binding.flattened (Value.ofItems fields) rows') :=
        (Build.Alike.lift same.items_alike).bind fun all all' same_all =>
          rowsValues_alike rows_differ same_all _ 0
      refine flattened.bind fun params params' lengths => ?_
      rw [lengths]
      exact Build.Alike.bind_same _ fun _ => .pure ⟨rfl, lengths⟩

end Prepared

/-! ## Operations -/

namespace Operation

variable {differ : Value → Value → Prop}

omit [Machine] in
theorem asText_alike {text text' : Build String} (texts : Build.Alike differ Eq text text') :
    Build.Alike differ Value.SameStatement (asText text) (asText text') := by
  refine texts.bind ?_
  rintro sql _ rfl
  exact .pure (.text sql)

omit [Machine] in
theorem asPrepared_alike {work work' : Build Prepared}
    (alike : Build.Alike differ Prepared.Like work work') :
    Build.Alike differ Value.SameStatement (asPrepared work) (asPrepared work') := by
  refine alike.bind ?_
  rintro ⟨sql, params⟩ ⟨_, params'⟩ ⟨rfl, lengths⟩
  exact .pure (.prepared lengths)

/-- Operations on mappings with the same keys are alike. -/
theorem run_alike {op op' : Operation Value} (same : op.SameColumns op') :
    Build.Alike op.Differ Value.SameStatement op.run op'.run := by
  have text_refl (differ : Value → Value → Prop) (text : Build String) :
      Build.Alike differ Eq text text := .refl (fun _ => rfl) text
  have single {v w : Value} (same : SameKeys v w) : List.Forall₂ SameKeys [v] [w] :=
    .cons same .nil
  have none_differ : ∀ cell cell', ∃ kept kept', Value.mapping cell [] = .mapping kept [] ∧
      Value.mapping cell' [] = .mapping kept' [] := fun cell cell' => ⟨cell, cell', rfl, rfl⟩
  cases same with
  | @count table criteria criteria' same =>
    rw [run, run, Statement.count_congr table same]
    exact asText_alike (text_refl _ _)
  | @find table criteria criteria' options same =>
    rw [run, run, Statement.find_congr table options same]
    exact asText_alike (text_refl _ _)
  | @update table criteria criteria' updates updates' options same updated =>
    exact asText_alike (Statement.update_alike table options none_differ same updated)
  | @delete table criteria criteria' options same =>
    rw [run, run, Statement.delete_congr table options same]
    exact asText_alike (text_refl _ _)
  | @prepareCount table criteria criteria' same =>
    rw [run, run, Prepared.count, Prepared.count, Statement.count_congr table same]
    exact asPrepared_alike (Prepared.bound_alike (text_refl _ _) (single same))
  | @prepareFind table criteria criteria' options same =>
    rw [run, run, Prepared.find, Prepared.find, Statement.find_congr table options same]
    exact asPrepared_alike (Prepared.bound_alike (text_refl _ _) (single same))
  | @prepareInsert table rows rows' same =>
    exact asPrepared_alike (Prepared.insert_alike (fun _ _ same => same) table same)
  | @prepareUpdate table criteria criteria' updates updates' options same updated =>
    exact asPrepared_alike (Prepared.bound_alike
      (Statement.update_alike table options none_differ same updated)
      (.cons updated (single same)))
  | @prepareDelete table criteria criteria' options same =>
    rw [run, run, Prepared.delete, Prepared.delete, Statement.delete_congr table options same]
    exact asPrepared_alike (Prepared.bound_alike (text_refl _ _) (single same))

end Operation

/-- In every session, operations on mappings with the same keys come to one text with as many
values to bind, or to one fault, which may differ only in a refused row or in an empty mapping.
Its message is the same then.  They record the same events and leave the session the same, with
the same lines in the journal. -/
theorem Session.work_hides_values {op op' : Operation Value} (same : op.SameColumns op')
    (session : Session) :
    Alike op.Differ Value.SameStatement (Session.work op.run session).1
        (Session.work op'.run session).1 ∧
      (∀ fault fault', (Session.work op.run session).1 = .error fault →
        (Session.work op'.run session).1 = .error fault' →
          fault.message = fault'.message ∧ fault.fields = fault'.fields) ∧
      (op.run session.desk).2.events = (op'.run session.desk).2.events ∧
      (Session.work op.run session).2 = (Session.work op'.run session).2 := by
  have alike := Operation.run_alike same
  obtain ⟨outcomes, sessions⟩ := alike.work session
  refine ⟨outcomes, ?_, congrArg Desk.events (alike session.desk).2, sessions⟩
  intro fault fault' failed failed'
  rw [failed, failed'] at outcomes
  exact outcomes.message_eq

end

/-- An update that gives people of some name another one. -/
def Operation.correction (old new : String) : Operation Value :=
  .prepareUpdate (.str "people") (Value.ofEntries [(.str "name", .str old)])
    (Value.ofEntries [(.str "name", .str new)]) .null

theorem Session.work_hides_values_correction :
    let anna := Operation.correction "Ann" "Anna"
    let john := Operation.correction "Jon" "John"
    anna.SameColumns john ∧
      (Session.work anna.run default).1 =
        .ok (.prepared "UPDATE people SET name=? WHERE name=?" none [.str "Anna", .str "Ann"]) ∧
      Alike anna.Differ Value.SameStatement (Session.work anna.run default).1
        (Session.work john.run default).1 ∧
      (Session.work anna.run default).2 = (Session.work john.run default).2 := by
  intro anna john
  have same : anna.SameColumns john := .prepareUpdate (.mapping rfl) (.mapping rfl)
  have hidden := Session.work_hides_values same default
  exact ⟨same, rfl, hidden.1, hidden.2.2.2⟩

end SqlAssembly
