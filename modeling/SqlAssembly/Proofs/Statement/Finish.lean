import SqlAssembly.Proofs.Options.Intact
import SqlAssembly.Proofs.Statement.Guarded

/-!
# How statements with options end

A statement with options is built, unless its options are refused, a direction
of its ordering is, or it fails (`Guarded.build_ends`).  Besides the last event
there may be one that the settings cannot be read and one that an offset is
dropped, in this order.

It fails only where a record cannot be made into one of the kind that is needed,
where the head cannot be written from it, or where something of the condition or
of the end has no text.  Then no event is the last one.
-/

namespace SqlAssembly

/-! ## The end of a statement -/

variable [Machine]

namespace Clause

/-- The event that an offset is dropped, if it is given without a limit. -/
def droppedOffset (limit offset : Value) : List Event :=
  if limit.kind = .null ∧ offset.kind ≠ .null then [offsetDropped offset] else []

/-- What keeps a limit and an offset from being written. -/
def windowLimit? (limit offset : Value) : Option Value.WritingLimit :=
  (window limit offset).findSome? Value.limit?

/-- With its ordering, the end of a statement is written, if its limit and its offset are. -/
theorem suffix_of_ordering {sort limit offset : Value} {desk after : Desk} {order : String}
    (ordered : ordering sort desk = (.ok order, after)) :
    suffix sort limit offset desk =
      (Value.unlessLimited (windowLimit? limit offset)
        (joined (order :: windowFragments limit offset)),
        after.recordAll (droppedOffset limit offset)) := by
  have ended (middle : Desk) :
      ((liftM (Value.writable (window limit offset)) : Build (List Value)) >>= fun _ =>
        pure (joined (order :: windowFragments limit offset))) middle =
      (Value.unlessLimited (windowLimit? limit offset)
        (joined (order :: windowFragments limit offset)), middle) := by
    rw [Build.bind_apply, Build.lift_apply, Value.writable, windowLimit?]
    cases (window limit offset).findSome? Value.limit? <;> rfl
  rw [suffix, Build.bind_of_ok ordered]
  by_cases alone : limit.kind = .null ∧ offset.kind ≠ .null
  · rw [droppedOffset, if_pos alone, if_pos alone]
    exact ended (after.record (offsetDropped offset))
  · rw [droppedOffset, if_neg alone, if_neg alone, Desk.recordAll_nil]
    exact ended after

/-- The desk when an ordering has asked the settings, if it does. -/
def orderedDesk (sort : Value) (desk : Desk) : Desk := if sort.isGiven then desk.asked else desk

/-- An ordering is written, or it ends at a column that has no text or whose direction is refused. -/
theorem ordering_cases {sort : Value}
    (mapping : sort = .null ∨ ∃ cell entries, sort = .mapping cell entries) (desk : Desk) :
    (∃ text, ordering sort desk = (.ok text, orderedDesk sort desk)) ∨
      (sort.isGiven = true ∧ ∃ column token, ordering sort desk =
        (.error (.invalidArgument (unsupportedDirection column token)),
          desk.asked.record ((unsupportedDirection column token).event .clauses []))) ∨
      ∃ cell entries limit, sort = .mapping cell entries ∧
        (∃ entry ∈ entries, entryLimit? entry = some limit) ∧
        ordering sort desk = (.error (.unwritable limit), orderedDesk sort desk) := by
  by_cases given : sort.isGiven = true
  · obtain ⟨cell, entries, rfl⟩ : ∃ cell entries, sort = .mapping cell entries := by
      rcases mapping with rfl | some_mapping
      · cases given
      · exact some_mapping
    have ordered := ordering_mapping cell (by simpa using given) desk
    rw [orderedDesk, if_pos given]
    cases columns : orderedColumns desk.isStrict entries with
    | ok texts =>
      rw [columns] at ordered
      exact Or.inl ⟨_, ordered⟩
    | error fault =>
      rw [columns] at ordered
      rcases orderedColumns_eq_error columns with ⟨limit, stopped, rfl⟩ |
        ⟨_, column, token, rfl⟩
      · exact Or.inr (Or.inr ⟨cell, entries, limit, rfl, stopped, ordered⟩)
      · exact Or.inr (Or.inl ⟨given, column, token, ordered⟩)
  · refine Or.inl ⟨"", ?_⟩
    rw [ordering_of_empty (Bool.eq_false_iff.2 given), orderedDesk, if_neg given]
    rfl

end Clause

/-! ## Statements with options -/

namespace Statement.Guarded

variable {g : Guarded} {n : Nat} {desk : Desk}

/-- The faults with which a statement fails. -/
inductive Fails (g : Guarded) : Fault → Prop
  /-- A record of another kind cannot be made into one of the kind that is needed. -/
  | record {fault : Fault} (made : Options.asNeeded g.kind g.options = .error fault) : Fails g fault
  /-- The head cannot be written from the record. -/
  | head {fault : Fault} {o : Options} (taken : g.record? = some o)
    (failed : g.head o = .error fault) : Fails g fault
  /-- The condition cannot be written. -/
  | condition {fault : Fault} {o : Options} {head : String} (taken : g.record? = some o)
    (written : g.head o = .ok head) (failed : Clause.condition g.criteria = .error fault) :
    Fails g fault
  /-- A column of the ordering has no text, or its direction has none. -/
  | ordering {o : Options} {cell : Cell} {entries : Entries} {entry : Value × Value}
    {limit : Value.WritingLimit} (taken : g.record? = some o) (sort : o.sort = .mapping cell entries)
    (among : entry ∈ entries) (stopped : Clause.entryLimit? entry = some limit) :
    Fails g (.unwritable limit)
  /-- The limit or the offset has no text. -/
  | window {o : Options} {limit : Value.WritingLimit} (reached : g.reached? = some o)
    (stopped : Clause.windowLimit? o.limit o.offset = some limit) : Fails g (.unwritable limit)

/-- The desk when a statement has asked the settings, if it does. -/
def askedDesk (g : Guarded) (desk : Desk) : Desk := if g.asks then desk.asked else desk

theorem askedDesk_of_not_reached (not_reached : g.reached? = none) : g.askedDesk desk = desk := by
  rw [askedDesk, asks_of_not_reached not_reached]
  rfl

/-- The event that the offset of the record is dropped, if it is. -/
def droppedOffset (g : Guarded) : List Event :=
  match g.reached? with
  | some o => Clause.droppedOffset o.limit o.offset
  | none => []

/-- The ways in which a statement ends. -/
inductive Ends (g : Guarded) (n : Nat) (desk : Desk) : Except Fault String × Desk → Prop
  /-- It is built. -/
  | built {o : Options} (text : String) (reached : g.reached? = some o)
    (free : Clause.windowLimit? o.limit o.offset = none) :
    Ends g n desk (.ok text, (g.askedDesk desk).recordAll (g.droppedOffset ++ [g.event n]))
  /-- Its options are refused. -/
  | options {error : InvalidArgument} (statement : error.statement = g.name)
    (argument : error.argument = "options") (quiet : g.asks = false) :
    Ends g n desk (.error (.invalidArgument error), desk.record (error.event .options []))
  /-- A direction is refused. -/
  | direction (column token : Value) (asks : g.asks = true) :
    Ends g n desk (.error (.invalidArgument (Clause.unsupportedDirection column token)),
      desk.asked.record ((Clause.unsupportedDirection column token).event .clauses []))
  /-- It fails, and nothing is recorded but that the settings cannot be read. -/
  | failed {fault : Fault} (cause : g.Fails fault) : Ends g n desk (.error fault, g.askedDesk desk)

/-- From a reached record, a statement comes to its end, to a refused direction or to a limit. -/
theorem buildWith_ends_of_reached (size : g.size = .ok n) {o : Options} (reached : g.reached? = some o)
    (wellMade : o.WellMade) {head condition : String} (written : g.head o = .ok head)
    (stated : Clause.condition g.criteria = .ok condition) :
    Ends g n desk (g.buildWith o desk) := by
  have taken := record?_of_reached? reached
  have asked : g.askedDesk desk = Clause.orderedDesk o.sort desk := by
    rw [askedDesk, asks_of_reached? reached, Clause.orderedDesk]
  have dropped : g.droppedOffset = Clause.droppedOffset o.limit o.offset := by
    rw [droppedOffset, reached]
  simp only [buildWith, written, stated, size, Build.bind_apply, Build.lift_apply]
  rcases Clause.ordering_cases wellMade.sort desk with ⟨order, ordered⟩ |
    ⟨given, column, token, refused⟩ | ⟨cell, entries, limit, sort, ⟨entry, among, stopped⟩, failed⟩
  · rw [Clause.suffix_of_ordering ordered]
    cases free : Clause.windowLimit? o.limit o.offset with
    | none =>
      have built : Ends g n desk _ :=
        .built (Clause.joined [head, condition,
          Clause.joined (order :: Clause.windowFragments o.limit o.offset)]) reached free
      rw [asked, dropped, ← Desk.recordAll_recordAll] at built
      exact built
    | some limit =>
      -- Where there is a limit to write, no offset is dropped.
      have none_dropped : Clause.droppedOffset o.limit o.offset = [] := by
        refine if_neg fun alone => ?_
        rw [Clause.windowLimit?, Clause.window, if_pos alone.1] at free
        cases free
      rw [none_dropped, Desk.recordAll_nil, ← asked]
      exact .failed (.window reached free)
  · rw [Clause.suffix, Build.bind_of_error refused]
    exact .direction column token ((asks_of_reached? reached).trans given)
  · rw [Clause.suffix, Build.bind_of_error failed, ← asked]
    exact .failed (.ordering taken sort among stopped)

theorem buildWith_ends (size : g.size = .ok n) {o : Options} (taken : g.record? = some o)
    (wellMade : o.WellMade) : Ends g n desk (g.buildWith o desk) := by
  cases written : g.head o with
  | error fault =>
    have failed : Ends g n desk _ := .failed (.head taken written)
    rw [askedDesk_of_not_reached (reached?_of_head_error taken written)] at failed
    rw [buildWith, written]
    exact failed
  | ok head =>
    cases stated : Clause.condition g.criteria with
    | error fault =>
      have failed : Ends g n desk _ := .failed (.condition taken written stated)
      rw [askedDesk_of_not_reached (reached?_of_condition_error taken stated)] at failed
      rw [buildWith, written, stated]
      exact failed
    | ok condition =>
      have reached : g.reached? = some o :=
        reached?_of_isOk taken (by rw [written]; rfl) (by rw [stated]; rfl)
      exact buildWith_ends_of_reached size reached wellMade written stated

/-- A statement is built, its options or a direction are refused, or it fails. -/
theorem build_ends (size : g.size = .ok n) (wellMade : ∀ o, g.record? = some o → o.WellMade) :
    Ends g n desk (g.build desk) := by
  have not_reached (none_taken : g.record? = none) : g.reached? = none := by
    rw [reached?, none_taken]
    rfl
  rcases Options.coerce_cases g.kind g.name g.options desk with
    ⟨o, taken, coerced⟩ | ⟨error, statement, argument, refused⟩ | ⟨fault, made, failed⟩
  · rw [build, Build.bind_of_ok coerced]
    exact buildWith_ends size taken (wellMade o taken)
  · have none_taken : g.record? = none := by
      cases taken : g.record? with
      | none => rfl
      | some o =>
        have coerced : Options.coerce g.options g.kind g.name desk = (.ok o, desk) :=
          Options.coerce_eq_ok_iff.2 ⟨taken, rfl⟩
        rw [refused] at coerced
        cases coerced
    rw [build, Build.bind_of_error refused]
    exact .options statement argument (asks_of_not_reached (not_reached none_taken))
  · have none_taken : g.record? = none := by rw [record?, Options.taken?, made]
    have ended : Ends g n desk _ := .failed (.record made)
    rw [askedDesk_of_not_reached (not_reached none_taken)] at ended
    rw [build, Build.bind_of_error failed]
    exact ended

end Statement.Guarded

end SqlAssembly
