import SqlAssembly.Proofs.Journal.Delivery
import SqlAssembly.Proofs.Settings.History

/-!
# Configuring

What the journal is configured for follows from the level that is given and from
the settings in force (`Journal.configurationFor`).  The threshold is that of the
level, or of its name in the settings (`Journal.chosenLevel_fst`), and there is a
file exactly if the settings can be read and ask for one (`Journal.fileFor`).

The threshold is set first, then the directory of the file is made, then the file,
and then handlers are attached: `Journal.configure` is all of it in one.  Where configuring succeeds, handlers for that threshold are attached to the
package after those that were there, the package has the threshold, and the file
is there (`Journal.configure_eq_ok`).  Where it fails, the package has the
threshold, but nothing is attached (`Journal.configure_eq_error`).  The root is
left alone.
-/

namespace SqlAssembly

/-! ## What is asked for -/

theorem Build.settings_bind_apply {α : Type} (next : Except Report Settings → Build α)
    (desk : Desk) :
    (Build.settings >>= next) desk = next desk.readSettings.1 desk.readSettings.2 := rfl

namespace Journal

variable [Machine]

/-- The threshold for a level: that of the level itself, or else that of the name in the settings, or
in a variable if they cannot be read. -/
def thresholdFor (level : Value) (settings : Except Report Settings) (environment : Environment) :
    Except Fault Threshold :=
  if level.kind = .null then
    match settings with
    | .ok settings => Threshold.ofNamed (Threshold.named (Text.upper settings.logLevel))
    | .error _ => Threshold.ofNamed (Threshold.named (fallbackLevel environment))
  else Threshold.ofValue level

/-- The file for a day, if the settings can be read and ask for one. -/
def fileFor (settings : Except Report Settings) (day : String) : Option Path :=
  match settings with
  | .ok settings => if settings.logToFile then some (fileIn settings.logFileDir day) else none
  | .error _ => none

/-- What the journal is configured for. -/
structure Configuration where
  /-- The threshold of the package and of the new handlers. -/
  threshold : Threshold
  /-- The file, if there is one. -/
  file : Option Path
  deriving DecidableEq, Repr

/-- The new handlers: one for the stream, and one for the file if there is one. -/
def Configuration.handlers (c : Configuration) : List Handler := handlersFor c.threshold c.file

/-- What the journal is configured for by a level, with the settings that are in force. -/
def configurationFor (level : Value) (settings : Except Report Settings)
    (environment : Environment) (day : String) : Except Fault Configuration :=
  (thresholdFor level settings environment).map fun threshold => ⟨threshold, fileFor settings day⟩

/-- Where the file for a day is to be. -/
def pathFor (settings : Except Report Settings) (day : String) : Path :=
  match settings with
  | .ok settings => fileIn settings.logFileDir day
  | .error _ => fileIn fallbackDirectory day

omit [Machine] in
theorem pathFor_of_fileFor {settings : Except Report Settings} {day : String} {path : Path}
    (asked : fileFor settings day = some path) : pathFor settings day = path := by
  cases settings with
  | error report => cases asked
  | ok settings =>
    simp only [fileFor, Option.ite_none_right_eq_some, Option.some.injEq] at asked
    exact asked.2

omit [Machine] in
theorem plannedPath_fst (day : String) (desk : Desk) :
    (plannedPath day desk).1 = .ok (pathFor desk.readSettings.1 day) := by
  rw [plannedPath, Build.settings_bind_apply]
  cases desk.readSettings.1 <;> rfl

omit [Machine] in
theorem plannedToFile_fst (day : String) (desk : Desk) :
    (plannedToFile desk).1 = .ok (fileFor desk.readSettings.1 day).isSome := by
  rw [plannedToFile, Build.settings_bind_apply]
  cases desk.readSettings.1 with
  | error report => rfl
  | ok settings => cases toFile : settings.logToFile <;> simp [fileFor, toFile]

theorem chosenLevel_fst (level : Value) (desk : Desk) :
    (chosenLevel level desk).1 = thresholdFor level desk.readSettings.1 desk.environment := by
  unfold chosenLevel thresholdFor
  split
  · rw [plannedLevel, Build.bind_assoc, Build.settings_bind_apply]
    cases desk.readSettings.1 with
    | ok settings => rfl
    | error report =>
      have same : desk.readSettings.2.environment = desk.environment := by
        rw [Desk.readSettings_snd]
      simp only [Build.environment, Build.bind_apply, Build.lift_apply, Build.pure_apply, same]
  · rfl

end Journal

/-! ## Files -/

namespace Storage

theorem files_makeOne {storage after : Storage} {p : Path}
    (made : storage.makeOne p = .ok after) : after.files = storage.files := by
  unfold makeOne at made
  -- All branches refuse but the one that adds an entry.
  simp only [bind, Except.bind, pure, Except.pure, throw, throwThe, MonadExceptOf.throw] at made
  repeat' split at made
  all_goals cases made
  all_goals rfl

theorem files_settle (storage : Storage) (p : Path) {result : Except Refusal Storage}
    (kept : ∀ after, result = .ok after → after.files = storage.files) :
    (storage.settle p result).2.files = storage.files := by
  cases result with
  | ok after => exact kept after rfl
  | error refusal =>
    rw [settle]
    split <;> rfl

theorem files_makeParts (storage : Storage) (root : PathRoot) (parts : List String) :
    (storage.makeParts root parts).2.files = storage.files := by
  induction parts with
  | nil => rfl
  | cons name before ih =>
    rw [makeParts]
    split
    · split
      · next after above =>
        rw [above] at ih
        rw [files_settle after _ fun _ made => files_makeOne made]
        exact ih
      · exact ih
    · next made _ =>
      exact files_settle storage _ fun _ made => files_makeOne made

/-- Making a directory changes no file. -/
theorem files_makeDirectory (storage : Storage) (p : Path) :
    (storage.makeDirectory p).2.files = storage.files :=
  files_makeParts storage p.root p.parts.reverse

theorem create_eq_ok {storage after : Storage} {p : Path} (made : storage.create p = .ok after) :
    storage.places ⊆ after.places ∧ settled p ∈ after.places := by
  unfold create at made
  dsimp only at made
  split at made
  · cases made
  · split at made
    · next there =>
      cases made
      obtain ⟨file, among, same⟩ := List.any_eq_true.1 there
      exact ⟨List.Subset.refl _, List.mem_map.2 ⟨file, among, beq_iff_eq.1 same⟩⟩
    · cases made
      simp only [places, List.map_append]
      exact ⟨List.subset_append_left _ _, List.mem_append_right _ List.mem_cons_self⟩

/-- The storage with a file at a path, in a directory that is made for it. -/
def openFile (storage : Storage) (p : Path) : Option Fault × Storage :=
  match storage.makeDirectory p.parent with
  | (some fault, after) => (some fault, after)
  | (none, after) => match after.create p with
    | .ok final => (none, final)
    | .error fault => (some fault, after)

theorem openFile_of_refused {storage after : Storage} {p : Path} {fault : Fault}
    (refused : storage.makeDirectory p.parent = (some fault, after)) :
    storage.openFile p = (some fault, after) := by
  rw [openFile, refused]

theorem openFile_of_made {storage after : Storage} {p : Path}
    (made : storage.makeDirectory p.parent = (none, after)) :
    storage.openFile p = match after.create p with
      | .ok final => (none, final)
      | .error fault => (some fault, after) := by
  rw [openFile, made]

/-- A file that is opened is there, and so are those that were there before. -/
theorem openFile_eq_none {storage after : Storage} {p : Path}
    (opened : storage.openFile p = (none, after)) :
    storage.places ⊆ after.places ∧ settled p ∈ after.places := by
  have files := storage.files_makeDirectory p.parent
  unfold openFile at opened
  split at opened
  · cases opened
  · next middle made =>
    rw [made] at files
    have same : middle.places = storage.places := by rw [places, files, places]
    split at opened
    · next final created =>
      cases opened
      rw [← same]
      exact create_eq_ok created
    · cases opened

end Storage

namespace Journal

/-- Every handler writes where there is something to write on. -/
def IsOpen (journal : Journal) : Prop :=
  ∀ handler ∈ journal.handlers ++ journal.rootHandlers, journal.HasSink handler.target.sink

/-- A journal reached from another one by some configurations: the package has the handlers of each,
after those that it had, and the threshold of the last one.  The root has what it had. -/
structure ConfiguredBy (start : Journal) (configurations : List Configuration)
    (reached : Journal) : Prop where
  handlers : reached.handlers = start.handlers ++ configurations.flatMap Configuration.handlers
  rootHandlers : reached.rootHandlers = start.rootHandlers
  package : reached.ownThreshold Logger.package.name =
    (configurations.getLast?.map Configuration.threshold).getD
      (start.ownThreshold Logger.package.name)
  others : ∀ name, name ≠ Logger.package.name →
    reached.ownThreshold name = start.ownThreshold name
  isOpen : start.IsOpen → reached.IsOpen

namespace ConfiguredBy

variable {start middle reached : Journal} {configurations more : List Configuration}

/-- Whatever leaves a journal as it is set up configures nothing. -/
theorem of_setup (same : reached.setup = start.setup) : ConfiguredBy start [] reached := by
  have handlers : reached.handlers = start.handlers := congrArg Setup.handlers same
  have root : reached.rootHandlers = start.rootHandlers := congrArg Setup.rootHandlers same
  have thresholds : reached.thresholds = start.thresholds := congrArg Setup.thresholds same
  have own (name : String) : reached.ownThreshold name = start.ownThreshold name := by
    rw [ownThreshold, ownThreshold, thresholds]
  refine ⟨handlers.trans (List.append_nil _).symm, root, own _, fun name _ => own name, ?_⟩
  intro start_open handler among
  rw [handlers, root] at among
  rw [hasSink_of_setup same]
  exact start_open handler among

theorem trans (first : ConfiguredBy start configurations middle)
    (second : ConfiguredBy middle more reached) :
    ConfiguredBy start (configurations ++ more) reached where
  handlers := by
    rw [second.handlers, first.handlers, List.append_assoc, List.flatMap_append]
  rootHandlers := second.rootHandlers.trans first.rootHandlers
  package := by
    rw [second.package, first.package, List.getLast?_append]
    cases more.getLast? <;> rfl
  others := fun name other => (second.others name other).trans (first.others name other)
  isOpen := fun start_open => second.isOpen (first.isOpen start_open)

end ConfiguredBy

theorem hasSink_mono {journal after : Journal} (kept : journal.storage.places ⊆ after.storage.places)
    {sink : Sink} (there : journal.HasSink sink) : after.HasSink sink := by
  cases sink with
  | stream => trivial
  | file place => exact kept there

theorem canonicalName_package : Logger.canonicalName Logger.package.name = Logger.package.name := by
  decide

theorem ownThreshold_setPackage (journal : Journal) (threshold : Threshold) :
    (journal.setThreshold Logger.package.name threshold).ownThreshold Logger.package.name =
      threshold := by
  have found := Bindings.get?_put_self journal.thresholds Logger.package.name threshold
  rw [ownThreshold, setThreshold, canonicalName_package, found]

theorem ownThreshold_setPackage_of_ne (journal : Journal) (threshold : Threshold) {name : String}
    (other : name ≠ Logger.package.name) :
    (journal.setThreshold Logger.package.name threshold).ownThreshold name =
      journal.ownThreshold name := by
  have found := Bindings.get?_put_of_ne journal.thresholds threshold other.symm
  rw [ownThreshold, setThreshold, canonicalName_package, found, ownThreshold]

/-- The storage with the file of a handler in it, and what keeps it from being there. -/
def opened (journal : Journal) : Option Path → Option Fault × Storage
  | none => (none, journal.storage)
  | some path => journal.storage.openFile path

/-- The package's threshold set, a file opened and handlers attached to the package. -/
def configure (journal : Journal) (threshold : Threshold) (file : Option Path) :
    Except Fault (List Handler) × Journal :=
  let raised := journal.setThreshold Logger.package.name threshold
  match raised.opened file with
  | (some fault, storage) => (.error fault, { raised with storage := storage })
  | (none, storage) =>
    let made := handlersFor threshold file
    (.ok made, { raised with handlers := raised.handlers ++ made, storage := storage })

/-- The journal with another storage. -/
def withStorage (journal : Journal) (storage : Storage) : Journal :=
  { journal with storage := storage }

theorem configure_some (journal : Journal) (threshold : Threshold) (path : Path) :
    journal.configure threshold (some path) =
      let raised := journal.setThreshold Logger.package.name threshold
      match journal.storage.openFile path with
      | (some fault, storage) => (.error fault, raised.withStorage storage)
      | (none, storage) =>
        let made := handlersFor threshold (some path)
        (.ok made, { raised with handlers := raised.handlers ++ made, storage := storage }) := rfl

/-- A file that is asked for is opened, and the others stay. -/
theorem opened_eq_none {journal : Journal} {threshold : Threshold} {file : Option Path}
    {storage : Storage}
    (done : (journal.setThreshold Logger.package.name threshold).opened file = (none, storage)) :
    journal.storage.places ⊆ storage.places ∧
      ∀ path, file = some path → Storage.settled path ∈ storage.places := by
  cases file with
  | none =>
    cases done
    exact ⟨List.Subset.refl _, fun path none_given => nomatch none_given⟩
  | some path =>
    obtain ⟨kept, there⟩ := Storage.openFile_eq_none done
    exact ⟨kept, fun other same => Option.some.inj same ▸ there⟩

/-- Handlers may be attached that write where there is something to write on. -/
theorem IsOpen.attach {journal after : Journal} (was_open : journal.IsOpen)
    (kept : journal.storage.places ⊆ after.storage.places) {new : List Handler}
    (handlers : after.handlers = journal.handlers ++ new)
    (root : after.rootHandlers = journal.rootHandlers)
    (there : ∀ handler ∈ new, after.HasSink handler.target.sink) : after.IsOpen := by
  intro handler among
  rw [handlers, root, List.append_assoc, List.mem_append, List.mem_append] at among
  rcases among with old | new | old
  · exact hasSink_mono kept (was_open handler (List.mem_append_left _ old))
  · exact there handler new
  · exact hasSink_mono kept (was_open handler (List.mem_append_right _ old))

/-- New handlers write on the stream, and in the file that was asked for. -/
theorem Configuration.hasSink_of_mem_handlers {c : Configuration} {journal : Journal}
    (there : ∀ path, c.file = some path → Storage.settled path ∈ journal.storage.places) :
    ∀ handler ∈ c.handlers, journal.HasSink handler.target.sink := by
  intro handler new
  rcases List.mem_cons.1 new with rfl | to_file
  · trivial
  · obtain ⟨path, asked, rfl⟩ := List.mem_map.1 to_file
    exact there path (Option.mem_toList.1 asked)

/-- Configuring that succeeds gives the new handlers. -/
theorem configure_eq_ok {journal after : Journal} {c : Configuration} {made : List Handler}
    (done : journal.configure c.threshold c.file = (.ok made, after)) :
    made = c.handlers ∧ ConfiguredBy journal [c] after := by
  unfold configure at done
  dsimp only at done
  split at done
  · cases done
  · next storage opened =>
    obtain ⟨kept, there⟩ := opened_eq_none opened
    obtain ⟨same, rfl⟩ := Prod.mk.inj done
    obtain rfl : handlersFor c.threshold c.file = made := Except.ok.inj same
    refine ⟨rfl, ?_, rfl, ownThreshold_setPackage journal c.threshold,
      fun name other => ownThreshold_setPackage_of_ne journal c.threshold other,
      fun was_open => was_open.attach kept rfl rfl (Configuration.hasSink_of_mem_handlers there)⟩
    rw [List.flatMap_singleton]
    rfl

/-- Configuring that fails has set the package's threshold, but attaches nothing.  What failed is to
open the file. -/
theorem configure_eq_error {journal after : Journal} {threshold : Threshold} {file : Option Path}
    {fault : Fault} (failed : journal.configure threshold file = (.error fault, after)) :
    ∃ path storage, file = some path ∧ journal.storage.openFile path = (some fault, storage) ∧
      after = (journal.setThreshold Logger.package.name threshold).withStorage storage := by
  unfold configure at failed
  dsimp only at failed
  split at failed
  · next other storage opened =>
    cases failed
    cases file with
    | none => cases opened
    | some path => exact ⟨path, storage, rfl, opened, rfl⟩
  · cases failed

end Journal

end SqlAssembly
