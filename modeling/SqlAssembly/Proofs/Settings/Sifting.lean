import SqlAssembly.Proofs.Session.Requests
import SqlAssembly.Proofs.Statement.Call

/-!
# Strictness as a sieve

Columns are ordered up to the first entry that does not *pass*: one whose column
or direction cannot be written or, with strictness, one whose direction is none
of the two in upper case.  That entry alone is what the ordering ends with,
whatever comes after it (`Clause.orderedColumns_of_firstStopped`).  So strictness
never changes what is written.

An operation that writes an ordering *sifts* its entries if that is all that
strictness does to it (`Build.Sifts`).  An ordering does, and so does an
operation that goes on with one without asking again (`Build.Sifts.andThen`).
In sessions that differ in nothing but strictness, such an operation comes to
the same or to the refusal of that entry (`Build.Sifts.sifted`).
-/

namespace SqlAssembly

variable [Machine]

namespace Clause

/-! ## Entries that pass -/

/-- A direction is supported if its token is one of the two in upper case. -/
def IsSupported (direction : Value) : Prop :=
  Text.upper (directionToken direction).display ∈ ["ASC", "DESC"]

instance (direction : Value) : Decidable (IsSupported direction) :=
  inferInstanceAs (Decidable (_ ∈ _))

/-- An entry passes if it can be written and, with strictness, its direction is supported. -/
def Passes (strict : Bool) (entry : Value × Value) : Prop :=
  entryLimit? entry = none ∧ (strict = true → IsSupported entry.2)

/-- The first column that does not pass, with its direction. -/
def FirstStopped (strict : Bool) (entries : Entries) (column direction : Value) : Prop :=
  ∃ before after, entries = before ++ (column, direction) :: after ∧
    (∀ entry ∈ before, Passes strict entry) ∧ ¬ Passes strict (column, direction)

/-- What an ordering ends with at a column that does not pass. -/
def stopFault (column direction : Value) : Fault :=
  match entryLimit? (column, direction) with
  | some limit => .unwritable limit
  | none => .invalidArgument (unsupportedDirection column (directionToken direction))

omit [Machine] in
theorem isDirection_eq_true_iff {direction : Value} :
    isDirection (directionToken direction).display = true ↔ IsSupported direction := by
  rw [isDirection, List.contains_iff_mem]
  rfl

/-- The columns with their directions, as they are written where all of them pass. -/
def allColumns (entries : Entries) : List String :=
  entries.map fun entry => orderedColumn entry.1 (directionToken entry.2)

variable {strict : Bool} {entries : Entries}

theorem orderedColumns_cons_of_passes {entry : Value × Value} (passes : Passes strict entry)
    (rest : Entries) :
    orderedColumns strict (entry :: rest) =
      (orderedColumns strict rest).map
        (orderedColumn entry.1 (directionToken entry.2) :: ·) := by
  have accepted : (strict && !isDirection (directionToken entry.2).display) = false := by
    cases strict with
    | false => rfl
    | true => rw [isDirection_eq_true_iff.2 (passes.2 rfl)]; rfl
  simp only [orderedColumns_of_written strict passes.1, accepted, Bool.false_eq_true, if_false]

theorem orderedColumns_cons_of_not_passes {column direction : Value}
    (stopped : ¬ Passes strict (column, direction)) (rest : Entries) :
    orderedColumns strict ((column, direction) :: rest) = .error (stopFault column direction) := by
  unfold stopFault
  cases written : entryLimit? (column, direction) with
  | some limit => exact orderedColumns_of_limit strict written rest
  | none =>
    have refused : (strict && !isDirection (directionToken direction).display) = true := by
      have unsupported : ¬ (strict = true → IsSupported direction) := fun supported =>
        stopped ⟨written, supported⟩
      obtain ⟨rfl, none_of_them⟩ := Classical.not_imp.1 unsupported
      rw [Bool.true_and, Bool.not_eq_true']
      exact Bool.not_eq_true _ ▸ mt isDirection_eq_true_iff.1 none_of_them
    simp only [orderedColumns_of_written strict written, refused, if_true]

theorem orderedColumns_of_passes (pass : ∀ entry ∈ entries, Passes strict entry) :
    orderedColumns strict entries = .ok (allColumns entries) := by
  induction entries with
  | nil => rfl
  | cons entry rest ih =>
    rw [orderedColumns_cons_of_passes (pass entry List.mem_cons_self),
      ih fun other among => pass other (List.mem_cons_of_mem _ among)]
    rfl

/-- The first entry that does not pass ends the ordering, whatever comes after it. -/
theorem orderedColumns_of_firstStopped {column direction : Value}
    (first : FirstStopped strict entries column direction) :
    orderedColumns strict entries = .error (stopFault column direction) := by
  obtain ⟨before, after, rfl, pass, stopped⟩ := first
  induction before with
  | nil => exact orderedColumns_cons_of_not_passes stopped after
  | cons entry rest ih =>
    rw [List.cons_append, orderedColumns_cons_of_passes (pass entry List.mem_cons_self),
      ih fun other among => pass other (List.mem_cons_of_mem _ among)]
    rfl

/-- All entries pass, or there is a first one that does not. -/
theorem pass_or_firstStopped (strict : Bool) (entries : Entries) :
    (∀ entry ∈ entries, Passes strict entry) ∨
      ∃ column direction, FirstStopped strict entries column direction := by
  induction entries with
  | nil => exact Or.inl (List.forall_mem_nil _)
  | cons entry rest ih =>
    by_cases here : Passes strict entry
    · rcases ih with pass | ⟨column, direction, before, after, rfl, pass, stopped⟩
      · exact Or.inl (List.forall_mem_cons.2 ⟨here, pass⟩)
      · exact Or.inr ⟨column, direction, entry :: before, after, rfl,
          List.forall_mem_cons.2 ⟨here, pass⟩, stopped⟩
    · exact Or.inr ⟨entry.1, entry.2, [], rest, rfl, List.forall_mem_nil _, here⟩

theorem pass_iff : (∀ entry ∈ entries, Passes strict entry) ↔
    ¬ ∃ column direction, FirstStopped strict entries column direction := by
  refine ⟨?_, (pass_or_firstStopped strict entries).resolve_right⟩
  rintro pass ⟨column, direction, before, after, rfl, _, stopped⟩
  exact stopped (pass (column, direction) (by simp))

end Clause

namespace Build

open Clause

variable {α β : Type} {strict : Bool} {entries : Entries}

/-! ## Sieves -/

/-- A reply, unless an entry does not pass. -/
def sieve (strict : Bool) (entries : Entries) (reply : Reply α) : Reply α :=
  (Reply.checked .clauses (orderedColumns strict entries)).bind fun _ => reply

theorem sieve_of_passes (pass : ∀ entry ∈ entries, Passes strict entry) (reply : Reply α) :
    sieve strict entries reply = reply := by
  rw [sieve, orderedColumns_of_passes pass]
  rfl

/-- With a fault from the first entry that does not pass, a reply comes to it in every session. -/
theorem settled_sieve_of_firstStopped {column direction : Value}
    (first : FirstStopped strict entries column direction) (reply : Reply α) (session : Session) :
    (sieve strict entries reply).settled session = .error (stopFault column direction) := by
  rw [sieve, orderedColumns_of_firstStopped first, stopFault]
  cases entryLimit? (column, direction) with
  | some limit => rfl
  | none =>
    have simple (error : InvalidArgument) : ∀ event ∈ [error.event .clauses []], event.IsSimple :=
      List.forall_mem_singleton.2 (Request.event_isSimple error (by decide))
    exact Reply.settled_of_isSimple (simple _) session

theorem sieve_bind (strict : Bool) (entries : Entries) (first : Reply α) (next : α → Reply β) :
    (sieve strict entries first).bind next = sieve strict entries (first.bind next) := by
  rcases pass_or_firstStopped strict entries with pass | ⟨column, direction, stopped⟩
  · rw [sieve_of_passes pass, sieve_of_passes pass]
  · rw [sieve, sieve, orderedColumns_of_firstStopped stopped, stopFault]
    cases entryLimit? (column, direction) <;> rfl

/-- An operation to which strictness does nothing but to refuse a direction. -/
def Sifts (work : Build α) (entries : Entries) : Prop :=
  ∃ reply : Reply α, work = strictness >>= fun strict => (sieve strict entries reply).run

/-- What comes after an operation may not ask again. -/
theorem Sifts.andThen {first : Build α} {next : α → Build β} {entries : Entries}
    (sifts : Sifts first entries) (deaf : ∀ a, Heeds (next a) false) :
    Sifts (first >>= next) entries := by
  obtain ⟨later, rfl⟩ := Heeds.replies_of_deaf deaf
  obtain ⟨reply, rfl⟩ := sifts
  refine ⟨reply.bind later, ?_⟩
  simp only [bind_assoc, Reply.run_bind, sieve_bind]

/-- An operation succeeds only if all entries pass. -/
theorem Sifts.passes {work : Build α} {session : Session} (sifts : Sifts work entries) {a : α}
    (built : (Session.work work session).1 = .ok a) :
    ∀ entry ∈ entries, Passes session.desk.isStrict entry := by
  obtain ⟨reply, rfl⟩ := sifts
  refine (pass_or_firstStopped _ entries).resolve_right ?_
  rintro ⟨column, direction, first⟩
  rw [Session.work_fst_asking, settled_sieve_of_firstStopped first] at built
  cases built

end Build

namespace Clause

/-- An ordering sifts what it orders by. -/
theorem ordering_eq_sieve (cell : Cell) {entries : Entries} (some_entries : entries ≠ []) :
    ordering (.mapping cell entries) = strictness >>= fun strict =>
      (Build.sieve strict entries ⟨.ok (orderingOf (allColumns entries)), []⟩).run := by
  funext desk
  have ends (columns : List String) : (pure (orderingOf columns) : Build String) =
      (⟨.ok (orderingOf columns), []⟩ : Reply String).run :=
    funext fun desk => by simp [Reply.run]
  rw [ordering_mapping cell some_entries, Build.bind_apply strictness, strictness_apply,
    ← Reply.run_checked]
  simp only [ends, Reply.run_bind]
  cases accepted : orderedColumns desk.isStrict entries with
  | ok columns =>
    obtain rfl : columns = allColumns entries := orderedColumns_eq_ok accepted
    rw [Build.sieve, accepted]
    rfl
  | error fault =>
    rw [Build.sieve, accepted]
    cases fault <;> rfl

variable {sort : Value} {cell : Cell} {entries : Entries}

theorem ordering_sifts (some_entries : entries ≠ [])
    (same : ordering sort = ordering (.mapping cell entries)) :
    Build.Sifts (ordering sort) entries :=
  ⟨_, same.trans (ordering_eq_sieve cell some_entries)⟩

theorem suffix_sifts (some_entries : entries ≠ [])
    (same : ordering sort = ordering (.mapping cell entries)) (limit offset : Value) :
    Build.Sifts (suffix sort limit offset) entries := by
  refine (ordering_sifts some_entries same).andThen fun order => ?_
  have ended : Build.Heeds ((liftM (Value.writable (window limit offset)) : Build (List Value)) >>=
      fun _ => pure (joined (order :: windowFragments limit offset))) false :=
    (Build.Heeds.lift _).andThen fun _ => .pure _
  split
  · exact (Build.Heeds.emit _).andThen fun _ => ended
  · exact ended

/-! ## Sessions -/

/-- What a text is sifted to: the text itself, if all entries pass.  Otherwise the first one that
does not is what it ends with, and what comes after that does not matter. -/
structure Sifted (strict : Bool) (entries : Entries) (text : String)
    (outcome : Except Fault String) : Prop where
  passed : (∀ entry ∈ entries, Passes strict entry) → outcome = .ok text
  unwritable : ∀ column direction, FirstStopped strict entries column direction →
    ∀ limit, entryLimit? (column, direction) = some limit → outcome = .error (.unwritable limit)
  refused : ∀ column direction, FirstStopped strict entries column direction →
    entryLimit? (column, direction) = none →
      outcome = .error (.invalidArgument (unsupportedDirection column (directionToken direction)))

end Clause

namespace Build

open Clause

variable {entries : Entries}

/-- What a reply comes to is sifted. -/
theorem sifted_sieve (strict : Bool) {reply : Reply String} {session : Session} {text : String}
    (written : reply.settled session = .ok text) :
    Sifted strict entries text ((sieve strict entries reply).settled session) where
  passed pass := by rw [sieve_of_passes pass, written]
  unwritable column direction first limit stopped := by
    rw [settled_sieve_of_firstStopped first, stopFault, stopped]
  refused column direction first written := by
    rw [settled_sieve_of_firstStopped first, stopFault, written]

/-- What is written without strictness is sifted with it. -/
theorem Sifts.sifted {work : Build String} (sifts : Sifts work entries) {loose strict : Session}
    (thresholds : loose.journal.SameThresholds strict.journal) (time : loose.clock = strict.clock)
    {text : String} (built : (Session.work work loose).1 = .ok text) :
    Sifted strict.desk.isStrict entries text (Session.work work strict).1 := by
  have pass := sifts.passes built
  obtain ⟨reply, rfl⟩ := sifts
  rw [Session.work_fst_asking, sieve_of_passes pass, reply.settled_eq thresholds time] at built
  rw [Session.work_fst_asking]
  exact sifted_sieve _ built

end Build

end SqlAssembly
