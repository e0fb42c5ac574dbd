import SqlAssembly.Session.Step

/-!
# What activities leave as it was

An activity *keeps* a part of the session if it leaves that part as it was,
whatever it comes to.  Activities made of such activities do the same
(`Activity.Keeps.bind`), so that a step is seen to keep a part from what it is
made of.

Making values out of terms changes nothing but the store, and so does keeping
them.
-/

namespace SqlAssembly

namespace Activity

variable {α β τ : Type} {part : Session → τ}

theorem bind_apply (work : Activity α) (next : α → Activity β) (session : Session) :
    (work >>= next) session = match work session with
      | (.ok a, after) => next a after
      | (.error fault, after) => (.error fault, after) := by
  show (ExceptT.bindCont next (work session).1) (work session).2 = _
  rcases work session with ⟨fault | a, after⟩ <;> rfl

theorem bind_of_ok {work : Activity α} {next : α → Activity β} {session after : Session} {a : α}
    (done : work session = (.ok a, after)) : (work >>= next) session = next a after := by
  rw [bind_apply, done]

theorem bind_of_error {work : Activity α} {next : α → Activity β} {session after : Session}
    {fault : Fault} (failed : work session = (.error fault, after)) :
    (work >>= next) session = (.error fault, after) := by
  rw [bind_apply, failed]

theorem get_bind_apply (next : Session → Activity α) (session : Session) :
    (get >>= next) session = next session session := rfl

/-- An activity that leaves a part of the session as it was. -/
def Keeps (part : Session → τ) (work : Activity α) : Prop :=
  ∀ session, part (work session).2 = part session

namespace Keeps

theorem pure (a : α) : Keeps part (Pure.pure a : Activity α) := fun _ => rfl

theorem throw (fault : Fault) : Keeps part (throw fault : Activity α) := fun _ => rfl

theorem lift (result : Except Fault α) : Keeps part (liftM result : Activity α) := by
  intro session
  cases result <;> rfl

theorem bind {work : Activity α} {next : α → Activity β} (first : Keeps part work)
    (rest : ∀ a, Keeps part (next a)) : Keeps part (work >>= next) := by
  intro session
  rw [bind_apply]
  have kept := first session
  generalize work session = run at kept
  rcases run with ⟨fault | a, after⟩
  · exact kept
  · exact (rest a after).trans kept

/-- What comes after an activity leaves the part as the activity left it. -/
theorem part_bind {work : Activity α} {next : α → Activity β} {session : Session}
    (rest : ∀ a, Keeps part (next a)) :
    part ((work >>= next) session).2 = part (work session).2 := by
  rw [bind_apply]
  rcases work session with ⟨fault | a, after⟩
  · rfl
  · exact rest a after

/-- What is done with the session at hand need keep the part from there only. -/
theorem getThen {next : Session → Activity β}
    (kept : ∀ session, part (next session session).2 = part session) :
    Keeps part (get >>= next) := kept

theorem modify {change : Session → Session} (kept : ∀ session, part (change session) = part session) :
    Keeps part (modify change : Activity Unit) := kept

theorem mapM {f : α → Activity β} (kept : ∀ a, Keeps part (f a)) (as : List α) :
    Keeps part (as.mapM f) := by
  induction as with
  | nil =>
    rw [List.mapM_nil]
    exact .pure []
  | cons a rest ih =>
    rw [List.mapM_cons]
    exact (kept a).bind fun _ => ih.bind fun _ => .pure _

theorem refuse (fault : Option Fault) : Keeps part (Step.refuse fault) := by
  cases fault with
  | none => exact .pure ()
  | some fault => exact .throw fault

end Keeps

/-! ## The store -/

/-- A part of the session that the store is no part of. -/
def ApartFromStore (part : Session → τ) : Prop :=
  ∀ (session : Session) (store : Store), part { session with store := store } = part session

namespace Keeps

variable (apart : ApartFromStore part)

include apart

variable [Machine]

theorem evaluate (term : Term) : Keeps part (Session.evaluate term) := by
  intro session
  unfold Session.evaluate
  cases term.value session.store with
  | error fault => rfl
  | ok v => exact apart session _

omit [Machine] in
theorem keep (name : Option String) (v : Value) : Keeps part (Session.keep name v) := by
  cases name with
  | none => exact .pure ()
  | some name => exact .modify fun session => apart session _

theorem arguments (operation : Operation Term) :
    Keeps part (operation.mapM Session.evaluate) := by
  have one := evaluate apart
  cases operation with
  | condition a | assignments a | projection a | ordering a | joined a | placeholders a =>
    exact (one a).bind fun _ => .pure _
  | values as => exact (mapM one as).bind fun _ => .pure _
  | flattened a b | count a b | prepareCount a b | prepareInsert a b =>
    exact (one a).bind fun _ => (one b).bind fun _ => .pure _
  | suffix a b c | find a b c | insert a b c | delete a b c | prepareFind a b c
  | prepareDelete a b c =>
    exact (one a).bind fun _ => (one b).bind fun _ => (one c).bind fun _ => .pure _
  | update a b c d | prepareUpdate a b c d =>
    exact (one a).bind fun _ => (one b).bind fun _ => (one c).bind fun _ =>
      (one d).bind fun _ => .pure _

/-! ### Messages -/

theorem evaluated (fields : List (String × Term)) : Keeps part (Message.evaluated fields) := by
  refine .mapM (fun field => ?_) fields
  exact (evaluate apart field.2).bind fun _ => .pure _

theorem bindRounds (position : Nat) (context : Bindings Value)
    (rounds : List (List (String × Term))) :
    Keeps part (Message.bindRounds position context rounds) := by
  induction rounds generalizing position context with
  | nil => exact .pure _
  | cons round rest ih =>
    exact (evaluated apart round).bind fun _ => (Keeps.lift _).bind fun _ => ih _ _

theorem event (message : Message) : Keeps part message.event := by
  have context : Keeps part message.settledContext :=
    (bindRounds apart 0 [] _).bind fun _ => .lift _
  exact context.bind fun _ => (evaluated apart _).bind fun _ => (Keeps.lift _).bind fun _ => .pure _

end Keeps

end Activity

/-! ## Steps -/

variable [Machine]

namespace Step

open Activity

variable {τ : Type} {part : Session → τ}

theorem run_perform (operation : Operation Term) (name : Option String) :
    (perform operation name).run =
      operation.mapM Session.evaluate >>= fun values =>
        Session.work values.run >>= fun v =>
          Session.keep name v >>= fun _ => (pure (.value v) : Activity Result) := rfl

omit [Machine] in
/-- Making a directory changes nothing but storage. -/
theorem keeps_makeDirectory
    (apart : ∀ (session : Session) (storage : Storage),
      part { session with journal := { session.journal with storage := storage } } = part session)
    (p : Path) : Keeps part (makeDirectory p) :=
  .getThen fun session => (Keeps.part_bind fun _ => Keeps.refuse _).trans (apart session _)

section

variable (works : ∀ {α : Type} (operation : Build α), Keeps part (Session.work operation))
  (makes : ∀ p, Keeps part (makeDirectory p))

include works makes

theorem keeps_logFile : Keeps part logFile := by
  refine .getThen fun session => ?_
  have rest (file : Path) : Keeps part (makeDirectory file.parent >>= fun _ =>
      (pure file : Activity Path)) := (makes file.parent).bind fun _ => .pure file
  exact (works (Journal.plannedPath session.clock.day)).bind rest session

theorem keeps_plan : Keeps part plan :=
  (works _).bind fun _ => (works _).bind fun _ => (keeps_logFile works makes).bind fun _ =>
    (Keeps.lift _).bind fun _ => .pure _

end

/-- Whether a step changes nothing but values that are kept. -/
def isQuiet : Step → Bool
  | .direction _ => true
  | .describeUnbuildable _ _ => true
  | .describeRefused _ _ _ _ => true
  | .readSettings => true
  | .locateFile _ => true
  | .readFileText _ => true
  | .listFiles => true
  | .keep _ _ => true
  | .lookUp _ => true
  | .replaceItem _ _ _ => true
  | .replaceAttribute _ _ _ => true
  | .readAttribute _ _ _ => true
  | .compare _ _ => true
  | _ => false

omit [Machine] in
theorem keeps_loadWith (file : Bindings (Option String)) : Keeps part (loadWith file) :=
  .getThen fun session => Keeps.lift _ session

omit [Machine] in
theorem keeps_located (text : Option String) : Keeps part (located text) :=
  .getThen fun session => ((Keeps.refuse _).bind fun _ => (Keeps.lift _).bind fun _ =>
    (Keeps.refuse _).bind fun _ => .pure _) session

omit [Machine] in
theorem keeps_attributeOf (target : Value) (name : String) :
    Keeps part (attributeOf target name) := by
  refine .getThen fun session => ?_
  cases session.store.note? target name with
  | some note => exact Keeps.pure note session
  | none => exact Keeps.lift _ session

omit [Machine] in
theorem keeps_makeNote (apart : ApartFromStore part) (target : Value) (name : String)
    (v : Value) : Keeps part (makeNote target name v) := by
  unfold makeNote
  split
  · exact .modify fun session => apart session _
  · exact .throw _

theorem keeps_of_isQuiet (apart : ApartFromStore part) {step : Step}
    (quiet : step.isQuiet = true) : Keeps part step.run := by
  have evaluates := Keeps.evaluate apart
  have changes (change : Store → Store) : Keeps part (modify fun session : Session =>
      { session with store := change session.store } : Activity Unit) :=
    .modify fun session => apart session _
  cases step with
  | direction token => exact (evaluates token).bind fun _ => (Keeps.lift _).bind fun _ => .pure _
  | describeUnbuildable statement detail => exact .pure _
  | describeRefused statement argument detail argued =>
    exact (evaluates argued).bind fun _ => .pure _
  | readSettings => exact (keeps_loadWith []).bind fun _ => .pure _
  | locateFile p =>
    exact (keeps_located p).bind fun _ => (keeps_loadWith []).bind fun _ => .pure _
  | readFileText text =>
    exact .getThen fun session => ((keeps_loadWith _).bind fun _ => .pure _) session
  | listFiles => exact .getThen fun _ => rfl
  | keep name term => exact (evaluates term).bind fun v =>
      (Keeps.keep apart (some name) v).bind fun _ => .pure _
  | lookUp name => exact (evaluates _).bind fun _ => .pure _
  | replaceItem target key item =>
    exact (evaluates item).bind fun item => (evaluates target).bind fun target =>
      (evaluates key).bind fun key => (Keeps.lift _).bind fun changed =>
      (changes (·.change changed)).bind fun _ => .pure _
  | replaceAttribute target name v =>
    exact (evaluates target).bind fun target => (evaluates v).bind fun v =>
      (keeps_makeNote apart target name v).bind fun _ => .pure _
  | readAttribute target name kept =>
    exact (evaluates target).bind fun target => (keeps_attributeOf target name).bind fun v =>
      (Keeps.keep apart kept v).bind fun _ => .pure _
  | compare left right =>
    exact (evaluates left).bind fun left => (evaluates right).bind fun right =>
      (Keeps.lift _).bind fun _ => .pure _
  | _ => cases quiet

end Step

/-! ## Operations in sessions -/

namespace Session

variable {α : Type}

theorem work_snd (operation : Build α) (session : Session) :
    (work operation session).2 = (session.afterDesk (operation session.desk).2).2 := by
  unfold work
  rcases operation session.desk with ⟨outcome, desk⟩
  dsimp only
  rcases session.afterDesk desk with ⟨_ | fault, after⟩ <;> rfl

theorem cache_work (operation : Build α) (session : Session) :
    (work operation session).2.cache = (operation session.desk).2.cache := by
  rw [work_snd]
  rfl

/-- An operation that keeps what is kept at its desk does so in a session. -/
theorem keeps_cache_work {operation : Build α}
    (kept : ∀ desk, (operation desk).2.cache = desk.cache) :
    Activity.Keeps cache (work operation) := fun session =>
  (cache_work operation session).trans (kept session.desk)

end Session

end SqlAssembly
