import SqlAssembly.Proofs.Journal.Publishing
import SqlAssembly.Proofs.Outcome

/-!
# Delivery

A line is written once by each handler that it comes to and whose threshold it
passes.  Several handlers may write in one place, on the error stream or in a
file; so a line stands there as often as there are such handlers for that place
(`Journal.copies`).

When events are published, those are delivered that their loggers write, up to
the first of them that has no written form (`Journal.published`).  What becomes
of their lines is `Journal.Delivered`.  How the journal is set up does not change
(`Journal.setup_publishAll`), so that every event finds what the first one found.
-/

namespace SqlAssembly

/-! ## Files -/

namespace Storage

/-- The places of the files that the journal writes. -/
def places (storage : Storage) : List Path := storage.files.map Prod.fst

/-- The lines of the file at a place. -/
def linesAt (storage : Storage) (place : Path) : List String :=
  (storage.files.lookup place).getD []

theorem places_append (storage : Storage) (p : Path) (line : String) :
    (storage.append p line).places = storage.places := by
  rw [places, append, List.map_map, places]
  refine List.map_congr_left fun file _ => ?_
  rw [Function.comp_apply]
  split <;> rfl

theorem lookup_cons_of_ne {place : Path} {file : Path × List String} (other : place ≠ file.1)
    (rest : List (Path × List String)) : (file :: rest).lookup place = rest.lookup place := by
  obtain ⟨first, lines⟩ := file
  rw [List.lookup_cons, beq_false_of_ne other]

theorem linesAt_append {storage : Storage} {place : Path} (there : place ∈ storage.places)
    (p : Path) (line : String) :
    (storage.append p line).linesAt place =
      storage.linesAt place ++ if settled p = place then [line] else [] := by
  obtain ⟨entries, files⟩ := storage
  simp only [places, linesAt, append] at there ⊢
  induction files with
  | nil => cases there
  | cons file rest ih =>
    obtain ⟨other, lines⟩ := file
    by_cases here : place = other
    · subst here
      by_cases same : settled p = place
      · simp [same]
      · simp [same, Ne.symm same]
    · have later : place ∈ rest.map Prod.fst := (List.mem_cons.1 there).resolve_left here
      rw [List.map_cons, lookup_cons_of_ne (by split <;> exact here), lookup_cons_of_ne here]
      exact ih later

end Storage

/-! ## Handlers -/

/-- Where lines stand: on the error stream, or in the file at a place. -/
inductive Sink
  | stream
  | file (place : Path)
  deriving DecidableEq, Repr

/-- Where the lines of a target stand. -/
def Target.sink : Target → Sink
  | .stream => .stream
  | .file p => .file (Storage.settled p)

namespace Journal

variable {journal other : Journal} {severity : Severity} {line : String} {clock : Clock}

/-- The lines that stand in a place. -/
def linesIn (journal : Journal) : Sink → List String
  | .stream => journal.stream
  | .file place => journal.storage.linesAt place

/-- The error stream is always there; a file has to be. -/
def HasSink (journal : Journal) : Sink → Prop
  | .stream => True
  | .file place => place ∈ journal.storage.places

/-- How a journal is set up: its handlers, its thresholds and its files, whatever is in them. -/
structure Setup where
  /-- The handlers of the package. -/
  handlers : List Handler
  /-- The handlers of the root. -/
  rootHandlers : List Handler
  /-- The thresholds of loggers. -/
  thresholds : Bindings Threshold
  /-- The places of the files. -/
  places : List Path

/-- How the journal is set up. -/
def setup (journal : Journal) : Setup :=
  ⟨journal.handlers, journal.rootHandlers, journal.thresholds, journal.storage.places⟩

theorem hasSink_of_setup (same : journal.setup = other.setup) : journal.HasSink = other.HasSink := by
  funext sink
  cases sink with
  | stream => rfl
  | file place =>
    have places : journal.storage.places = other.storage.places := congrArg Setup.places same
    simp only [HasSink, places]

theorem setup_handle (severity : Severity) (line : String) (journal : Journal)
    (handler : Handler) : (handle severity line journal handler).setup = journal.setup := by
  unfold handle
  split
  · split
    · rfl
    · simp only [setup, Storage.places_append]
  · rfl

/-- A handler writes a line once where its lines stand, if the severity passes its threshold. -/
theorem linesIn_handle {sink : Sink} (there : journal.HasSink sink) (handler : Handler) :
    (handle severity line journal handler).linesIn sink = journal.linesIn sink ++
      if handler.threshold.passes severity && handler.target.sink == sink then [line] else [] := by
  unfold handle
  cases handler.threshold.passes severity with
  | false => exact (List.append_nil _).symm
  | true =>
    cases handler.target with
    | stream =>
      cases sink with
      | stream => rfl
      | file place => exact (List.append_nil _).symm
    | file p =>
      cases sink with
      | stream => exact (List.append_nil _).symm
      | file place =>
        have written := Storage.linesAt_append there p line
        simpa [linesIn, Target.sink] using written

/-- Handlers write a line as often as there are some that write in a place and let it pass. -/
theorem linesIn_foldl_handle {sink : Sink} (there : journal.HasSink sink)
    (handlers : List Handler) :
    (handlers.foldl (handle severity line) journal).linesIn sink = journal.linesIn sink ++
      List.replicate (handlers.countP fun handler =>
        handler.threshold.passes severity && handler.target.sink == sink) line := by
  induction handlers generalizing journal with
  | nil => exact (List.append_nil _).symm
  | cons handler rest ih =>
    have still_there : (handle severity line journal handler).HasSink sink := by
      rw [hasSink_of_setup (setup_handle severity line journal handler)]
      exact there
    rw [List.foldl_cons, ih still_there, linesIn_handle there, List.append_assoc,
      List.countP_cons]
    split
    · rw [Nat.add_comm, ← List.replicate_append_replicate]
      rfl
    · rfl

theorem setup_foldl_handle (severity : Severity) (line : String) (handlers : List Handler)
    (journal : Journal) :
    (handlers.foldl (handle severity line) journal).setup = journal.setup := by
  induction handlers generalizing journal with
  | nil => rfl
  | cons handler rest ih => rw [List.foldl_cons, ih, setup_handle]

theorem setup_deliver (journal : Journal) (name : String) (severity : Severity) (line : String) :
    (journal.deliver name severity line).setup = journal.setup :=
  setup_foldl_handle severity line (journal.handlersOf name) journal

/-! ## Events -/

/-- How often the line of an event is written in a place: once by each handler that it comes to,
that writes there and that lets its severity pass. -/
def copies (journal : Journal) (event : Event) (sink : Sink) : Nat :=
  (journal.handlersOf event.logger.name).countP fun handler =>
    handler.threshold.passes event.severity && handler.target.sink == sink

theorem linesIn_deliver {event : Event} {sink : Sink} (there : journal.HasSink sink) :
    (journal.deliver event.logger.name event.severity line).linesIn sink =
      journal.linesIn sink ++ List.replicate (journal.copies event sink) line := by
  rw [copies, ← linesIn_foldl_handle there]
  cases sink <;> rfl

/-- Journals that are set up alike, with the same loggers, write an event equally often. -/
theorem copies_congr (same : journal.setup = other.setup) (known : journal.loggers = other.loggers) :
    journal.copies = other.copies := by
  have handlers : journal.handlers = other.handlers := congrArg Setup.handlers same
  have root : journal.rootHandlers = other.rootHandlers := congrArg Setup.rootHandlers same
  funext event sink
  simp only [copies, handlersOf, inPackage, handlers, root, known]
  rfl

variable [Machine]

/-- The events that are delivered: those that their loggers write, up to the first of them that has
no written form. -/
def published (journal : Journal) (clock : Clock) (events : List Event) : List Event :=
  (events.takeWhile fun event => (journal.eventFault? clock event).isNone).filter fun event =>
    journal.isEnabled event.logger.name event.severity

theorem SameThresholds.published_eq (same : SameThresholds journal other) :
    journal.published clock = other.published clock := by
  funext events
  simp only [published, same.eventFault?_eq, same.isEnabled_eq]

/-- What became of events that were published: the root keeps one line for each that is delivered,
and it stands in every place as often as handlers write it there. -/
def Delivered (clock : Clock) (journal : Journal) (events : List Event) (after : Journal) : Prop :=
  ∃ forms : List (Event × String), forms.map Prod.fst = journal.published clock events ∧
    (∀ form ∈ forms, form.1.line clock = .ok form.2) ∧
    after.captured = journal.captured ++ forms.map Prod.snd ∧
    ∀ sink, journal.HasSink sink → after.linesIn sink = journal.linesIn sink ++
      forms.flatMap fun form => List.replicate (journal.copies form.1 sink) form.2

theorem setup_publish {event : Event} {next : Journal}
    (done : journal.publish clock event = .ok next) : next.setup = journal.setup := by
  unfold publish at done
  split at done
  · obtain ⟨line, _, rfl⟩ := map_eq_ok_iff.1 done
    exact setup_deliver journal _ _ line
  · cases done
    rfl

theorem setup_publishAll (clock : Clock) (journal : Journal) (events : List Event) :
    (publishAll clock journal events).2.setup = journal.setup := by
  induction events generalizing journal with
  | nil => rfl
  | cons event rest ih =>
    rw [publishAll]
    split
    · next next done => rw [ih, setup_publish done]
    · rfl

theorem published_cons_of_disabled {event : Event}
    (disabled : journal.isEnabled event.logger.name event.severity = false) (rest : List Event) :
    journal.published clock (event :: rest) = journal.published clock rest := by
  have good : journal.eventFault? clock event = none := by
    rw [eventFault?, disabled]
    rfl
  rw [published, List.takeWhile_cons, good]
  show (event :: _).filter _ = _
  rw [List.filter_cons, disabled]
  rfl

theorem published_cons_of_line {event : Event}
    (enabled : journal.isEnabled event.logger.name event.severity = true)
    (written : event.line clock = .ok line) (rest : List Event) :
    journal.published clock (event :: rest) = event :: journal.published clock rest := by
  have good : journal.eventFault? clock event = none := by
    rw [eventFault?, enabled, written]
    rfl
  rw [published, List.takeWhile_cons, good]
  show (event :: _).filter _ = _
  rw [List.filter_cons, enabled]
  rfl

theorem published_cons_of_fault {event : Event} {fault : Fault}
    (enabled : journal.isEnabled event.logger.name event.severity = true)
    (unwritten : event.line clock = .error fault) (rest : List Event) :
    journal.published clock (event :: rest) = [] := by
  have bad : journal.eventFault? clock event = some fault := by
    rw [eventFault?, enabled, unwritten]
    rfl
  rw [published, List.takeWhile_cons, bad]
  rfl

theorem delivered_nothing (nothing : journal.published clock events = []) :
    Delivered clock journal events journal :=
  ⟨[], nothing.symm, List.forall_mem_nil _, (List.append_nil _).symm,
    fun _ _ => (List.append_nil _).symm⟩

/-- Published events are delivered. -/
theorem delivered_publishAll (clock : Clock) (journal : Journal) (events : List Event) :
    Delivered clock journal events (publishAll clock journal events).2 := by
  induction events generalizing journal with
  | nil => exact delivered_nothing rfl
  | cons event rest ih =>
    rw [publishAll, publish]
    cases enabled : journal.isEnabled event.logger.name event.severity with
    | false =>
      obtain ⟨forms, same, delivered⟩ := ih journal
      exact ⟨forms, same.trans (published_cons_of_disabled enabled rest).symm, delivered⟩
    | true =>
      cases written : event.line clock with
      | error fault => exact delivered_nothing (published_cons_of_fault enabled written rest)
      | ok line =>
        obtain ⟨forms, same, lines, captured, standing⟩ :=
          ih (journal.deliver event.logger.name event.severity line)
        have thresholds := sameThresholds_deliver journal event.logger.name event.severity line
        have setup := setup_deliver journal event.logger.name event.severity line
        -- The rest is published in a journal that is set up like this one.
        rw [thresholds.published_eq] at same
        rw [hasSink_of_setup setup, copies_congr setup thresholds.loggers] at standing
        refine ⟨(event, line) :: forms, ?_, List.forall_mem_cons.2 ⟨written, lines⟩, ?_, ?_⟩
        · rw [published_cons_of_line enabled written, List.map_cons, same]
        · exact captured.trans (by rw [captured_deliver, List.append_assoc]; rfl)
        · intro sink there
          refine (standing sink there).trans ?_
          rw [linesIn_deliver there, List.append_assoc, List.flatMap_cons]

end Journal

end SqlAssembly
