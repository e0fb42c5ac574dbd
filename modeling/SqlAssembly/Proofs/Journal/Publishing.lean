import SqlAssembly.Journal.Basic
import SqlAssembly.Proofs.Bindings

/-!
# Publishing events

Whether events can be published is a matter of their written forms and of the
thresholds in force, which publishing does not change (`publishAll_fst`).

An event is *writable* if its fields have forms in journal lines and it says
nothing of what it was made from.  A writable event always has a written form,
and so has a *simple* one, whose fields are texts and numbers of things.

Of events with written forms, those that their loggers write are delivered one
after the other (`publishAll_eq_deliverAll`).  Where every logger of the package
writes everything, they reach the root all of them, one line for each and in
their order (`captured_publishAll`).
-/

namespace SqlAssembly

/-! ## Events with written forms -/

/-- A text or a number of things. -/
inductive Detail.IsSimple : Detail → Prop
  | text (s : String) : IsSimple (.value (.str s))
  | count (n : Nat) : IsSimple (.count n)

/-- Fields that are texts and numbers of things. -/
def Event.SimpleFields (fields : Bindings Detail) : Prop := ∀ field ∈ fields, field.2.IsSimple

/-- An event of the package with simple fields, which was made from nothing. -/
structure Event.IsSimple (e : Event) : Prop where
  logger : e.logger ∈ Logger.all
  fields : SimpleFields e.fields
  no_origin : e.fields.get? originField = none

variable [Machine]

/-- A value that has a form in journal lines. -/
def Value.IsWritable (v : Value) : Prop := ∃ text, v.json = .ok text

/-- What has a form in journal lines. -/
def Detail.IsWritable (d : Detail) : Prop := ∃ text, d.json = .ok text

theorem Detail.IsSimple.isWritable {d : Detail} (simple : d.IsSimple) : d.IsWritable := by
  cases simple with
  | text s => exact ⟨Text.json s, by simp [json, Value.json, Value.jsonWithin]⟩
  | count n => exact ⟨_, rfl⟩

namespace Event

/-- An event of the package whose fields can be written, and which was made from nothing. -/
structure IsWritable (e : Event) : Prop where
  logger : e.logger ∈ Logger.all
  fields : ∀ field ∈ e.fields, field.2.IsWritable
  no_origin : e.fields.get? originField = none

theorem IsSimple.isWritable {e : Event} (simple : e.IsSimple) : e.IsWritable where
  logger := simple.logger
  fields := fun field among => (simple.fields field among).isWritable
  no_origin := simple.no_origin

theorem mapM_form {fields : Bindings Detail}
    (writable : ∀ field ∈ fields, field.2.IsWritable) :
    ∃ forms, fields.mapM form = .ok forms := by
  induction fields with
  | nil => exact ⟨[], rfl⟩
  | cons field rest ih =>
    obtain ⟨⟨text, here⟩, rest_writable⟩ := List.forall_mem_cons.1 writable
    obtain ⟨forms, written⟩ := ih rest_writable
    rw [List.mapM_cons, form, here, written]
    exact ⟨_, rfl⟩

/-- A writable event has a written form. -/
theorem line_of_isWritable {e : Event} (writable : e.IsWritable) (clock : Clock) :
    ∃ text, e.line clock = .ok text := by
  have text (s : String) : (Detail.value (.str s)).IsWritable := (Detail.IsSimple.text s).isWritable
  have named := Bindings.forall_put writable.fields "event" (text e.name)
  have ranked := Bindings.forall_put named "level" (text e.severity.word)
  have placed := Bindings.forall_put ranked "logger" (text e.logger.name)
  have contents : ∀ field ∈ e.contents (.str e.logger.name) clock, field.2.IsWritable :=
    Bindings.forall_put placed "timestamp" (text clock.moment)
  obtain ⟨forms, written⟩ := mapM_form contents
  rw [line_of_no_origin writable.no_origin, written]
  exact ⟨Value.braced forms, rfl⟩

/-- Writable events have lines. -/
theorem exists_forms {events : List Event} (writable : ∀ event ∈ events, event.IsWritable)
    (clock : Clock) :
    ∃ forms : List (Event × String), forms.map Prod.fst = events ∧
      ∀ form ∈ forms, form.1.line clock = .ok form.2 := by
  induction events with
  | nil => exact ⟨[], rfl, List.forall_mem_nil _⟩
  | cons event rest ih =>
    obtain ⟨first_writable, rest_writable⟩ := List.forall_mem_cons.1 writable
    obtain ⟨line, written⟩ := line_of_isWritable first_writable clock
    obtain ⟨forms, same, all_written⟩ := ih rest_writable
    exact ⟨(event, line) :: forms, by rw [List.map_cons, same],
      List.forall_mem_cons.2 ⟨written, all_written⟩⟩

end Event

namespace Journal

variable {journal other : Journal} {clock : Clock}

/-! ## Thresholds in force -/

/-- Journals with the same loggers and the same thresholds. -/
structure SameThresholds (journal other : Journal) : Prop where
  loggers : journal.loggers = other.loggers
  thresholds : journal.thresholds = other.thresholds

omit [Machine] in
theorem SameThresholds.trans {third : Journal} (first : SameThresholds journal other)
    (second : SameThresholds other third) : SameThresholds journal third :=
  ⟨first.loggers.trans second.loggers, first.thresholds.trans second.thresholds⟩

omit [Machine] in
theorem SameThresholds.ownThreshold_eq (same : SameThresholds journal other) (name : String) :
    journal.ownThreshold name = other.ownThreshold name := by
  rw [ownThreshold, ownThreshold, same.thresholds]

omit [Machine] in
theorem SameThresholds.isEnabled_eq (same : SameThresholds journal other) (name : String)
    (severity : Severity) : journal.isEnabled name severity = other.isEnabled name severity := by
  have in_force : journal.effective name = other.effective name := by
    simp only [effective, same.loggers, same.ownThreshold_eq]
  rw [isEnabled, isEnabled, in_force]

omit [Machine] in
theorem sameThresholds_handle (severity : Severity) (line : String) (journal : Journal)
    (handler : Handler) : SameThresholds (handle severity line journal handler) journal := by
  unfold handle
  split
  · split <;> exact ⟨rfl, rfl⟩
  · exact ⟨rfl, rfl⟩

omit [Machine] in
theorem sameThresholds_foldl_handle (severity : Severity) (line : String)
    (handlers : List Handler) (journal : Journal) :
    SameThresholds (handlers.foldl (handle severity line) journal) journal := by
  induction handlers generalizing journal with
  | nil => exact ⟨rfl, rfl⟩
  | cons handler rest ih =>
    exact (ih _).trans (sameThresholds_handle severity line journal handler)

omit [Machine] in
theorem sameThresholds_deliver (journal : Journal) (name : String) (severity : Severity)
    (line : String) : SameThresholds (journal.deliver name severity line) journal := by
  have handled := sameThresholds_foldl_handle severity line (journal.handlersOf name) journal
  exact ⟨handled.loggers, handled.thresholds⟩

/-! ## What cannot be published -/

/-- The fault of an event that is to be written and has no written form. -/
def eventFault? (journal : Journal) (clock : Clock) (event : Event) : Option Fault :=
  if journal.isEnabled event.logger.name event.severity then
    match event.line clock with
    | .ok _ => none
    | .error fault => some fault
  else none

theorem eventFault?_of_isWritable (journal : Journal) (clock : Clock) {event : Event}
    (writable : event.IsWritable) : journal.eventFault? clock event = none := by
  obtain ⟨text, written⟩ := Event.line_of_isWritable writable clock
  rw [eventFault?, written]
  exact ite_self none

/-- An event that a journal takes: it is writable, or its logger does not write it. -/
def Takes (journal : Journal) (event : Event) : Prop :=
  event.IsWritable ∨ event.logger ∈ Logger.all ∧
    journal.isEnabled event.logger.name event.severity = false

theorem Takes.eventFault?_eq_none {event : Event} (takes : journal.Takes event) :
    journal.eventFault? clock event = none := by
  rcases takes with writable | ⟨_, disabled⟩
  · exact eventFault?_of_isWritable journal clock writable
  · rw [eventFault?, disabled]
    rfl

theorem SameThresholds.eventFault?_eq (same : SameThresholds journal other) :
    journal.eventFault? clock = other.eventFault? clock := by
  funext event
  rw [eventFault?, eventFault?, same.isEnabled_eq]

theorem publish_cases (clock : Clock) (journal : Journal) (event : Event) :
    (∃ fault, journal.eventFault? clock event = some fault ∧
        journal.publish clock event = .error fault) ∨
      journal.eventFault? clock event = none ∧
        ∃ next, journal.publish clock event = .ok next ∧ SameThresholds next journal := by
  unfold eventFault? publish
  split
  · cases event.line clock with
    | error fault => exact Or.inl ⟨fault, rfl, rfl⟩
    | ok line => exact Or.inr ⟨rfl, _, rfl, sameThresholds_deliver _ _ _ _⟩
  · exact Or.inr ⟨rfl, journal, rfl, rfl, rfl⟩

/-- Publishing fails with the first event that is to be written and has no written form, and it
leaves the thresholds as they were. -/
theorem publishAll_fst (clock : Clock) (journal : Journal) (events : List Event) :
    (publishAll clock journal events).1 = events.findSome? (journal.eventFault? clock) ∧
      SameThresholds (publishAll clock journal events).2 journal := by
  induction events generalizing journal with
  | nil => exact ⟨rfl, rfl, rfl⟩
  | cons event rest ih =>
    rw [publishAll, List.findSome?_cons]
    rcases publish_cases clock journal event with ⟨fault, bad, failed⟩ | ⟨good, next, done, same⟩
    · rw [failed, bad]
      exact ⟨rfl, rfl, rfl⟩
    -- The later events are published after this one, but which of them fail does not depend on it.
    · obtain ⟨faults, thresholds⟩ := ih next
      rw [done, good]
      exact ⟨faults.trans (by rw [same.eventFault?_eq]), thresholds.trans same⟩

/-- What comes before the first event that cannot be published is published. -/
theorem publishAll_of_eventFault? (journal : Journal) {before : List Event} {event : Event}
    {fault : Fault} (good : before.findSome? (journal.eventFault? clock) = none)
    (bad : journal.eventFault? clock event = some fault) (after : List Event) :
    publishAll clock journal (before ++ event :: after) =
      (some fault, (publishAll clock journal before).2) := by
  induction before generalizing journal with
  | nil =>
    rw [List.nil_append, publishAll, publishAll]
    rcases publish_cases clock journal event with ⟨_, found, failed⟩ | ⟨found, _⟩
    · rw [failed]
      exact congrArg (·, journal) (found.symm.trans bad)
    · cases bad.symm.trans found
  | cons first rest ih =>
    rw [List.findSome?_cons] at good
    rw [List.cons_append, publishAll, publishAll]
    rcases publish_cases clock journal first with ⟨_, found, _⟩ | ⟨found, next, done, same⟩
    · rw [found] at good
      cases good
    · rw [found, ← same.eventFault?_eq] at good
      rw [done]
      exact ih next good (by rw [same.eventFault?_eq, bad])

theorem findSome?_eventFault?_of_isWritable (journal : Journal) (clock : Clock)
    {events : List Event} (writable : ∀ event ∈ events, event.IsWritable) :
    events.findSome? (journal.eventFault? clock) = none := by
  rw [List.findSome?_eq_none_iff]
  exact fun event among => eventFault?_of_isWritable journal clock (writable event among)

theorem findSome?_eventFault?_of_isSimple (journal : Journal) (clock : Clock)
    {events : List Event} (simple : ∀ event ∈ events, event.IsSimple) :
    events.findSome? (journal.eventFault? clock) = none :=
  findSome?_eventFault?_of_isWritable journal clock fun event among =>
    (simple event among).isWritable

/-! ## What is delivered -/

/-- Events with their lines delivered one after the other. -/
def deliverAll (journal : Journal) (forms : List (Event × String)) : Journal :=
  forms.foldl (fun journal form => journal.deliver form.1.logger.name form.1.severity form.2)
    journal

/-- The events, with their lines, that their loggers write. -/
def passing (journal : Journal) (forms : List (Event × String)) : List (Event × String) :=
  forms.filter fun form => journal.isEnabled form.1.logger.name form.1.severity

omit [Machine] in
theorem captured_deliverAll (journal : Journal) (forms : List (Event × String)) :
    (journal.deliverAll forms).captured = journal.captured ++ forms.map Prod.snd := by
  induction forms generalizing journal with
  | nil => exact (List.append_nil _).symm
  | cons form rest ih =>
    have later := ih (journal.deliver form.1.logger.name form.1.severity form.2)
    rw [captured_deliver, List.append_assoc] at later
    exact later

omit [Machine] in
theorem SameThresholds.passing_eq (same : SameThresholds journal other) :
    journal.passing = other.passing := by
  funext forms
  simp only [passing, same.isEnabled_eq]

/-- Events that have lines are published by delivering those that their loggers write. -/
theorem publishAll_eq_deliverAll {clock : Clock} (journal : Journal)
    {forms : List (Event × String)} (written : ∀ form ∈ forms, form.1.line clock = .ok form.2) :
    publishAll clock journal (forms.map Prod.fst) =
      (none, journal.deliverAll (journal.passing forms)) := by
  induction forms generalizing journal with
  | nil => rfl
  | cons form rest ih =>
    obtain ⟨first_written, rest_written⟩ := List.forall_mem_cons.1 written
    rw [List.map_cons, publishAll, publish, passing]
    by_cases enabled : journal.isEnabled form.1.logger.name form.1.severity = true
    -- What is written changes no threshold, so that the rest finds what this event found.
    · have same := sameThresholds_deliver journal form.1.logger.name form.1.severity form.2
      rw [if_pos enabled, first_written, List.filter_cons, if_pos enabled]
      exact (ih _ rest_written).trans (by rw [same.passing_eq]; rfl)
    · rw [if_neg enabled, List.filter_cons, if_neg enabled]
      exact ih journal rest_written

/-! ## Journals that write everything -/

/-- Every logger of the package writes events of every severity. -/
def WritesAll (journal : Journal) : Prop :=
  ∀ logger ∈ Logger.all, ∀ severity, journal.isEnabled logger.name severity = true

theorem WritesAll.isWritable (open_journal : journal.WritesAll) {event : Event}
    (takes : journal.Takes event) : event.IsWritable := by
  rcases takes with writable | ⟨known, disabled⟩
  · exact writable
  · rw [open_journal _ known] at disabled
    cases disabled

omit [Machine] in
theorem WritesAll.passing_eq (open_journal : journal.WritesAll) {forms : List (Event × String)}
    (known : ∀ form ∈ forms, form.1.logger ∈ Logger.all) : journal.passing forms = forms :=
  List.filter_eq_self.2 fun form among => open_journal _ (known form among) _

/-- Writable events reach the root one by one, in order. -/
theorem captured_publishAll (clock : Clock) {journal : Journal} (open_journal : journal.WritesAll)
    {events : List Event} (writable : ∀ event ∈ events, event.IsWritable) :
    ∃ lines, events.map (Event.line clock) = lines.map .ok ∧
      (publishAll clock journal events).2.captured = journal.captured ++ lines := by
  obtain ⟨forms, rfl, written⟩ := Event.exists_forms writable clock
  have known : ∀ form ∈ forms, form.1.logger ∈ Logger.all := fun form among =>
    (writable form.1 (List.mem_map_of_mem among)).logger
  refine ⟨forms.map Prod.snd, ?_, ?_⟩
  · rw [List.map_map, List.map_map]
    exact List.map_congr_left written
  · rw [publishAll_eq_deliverAll journal written, open_journal.passing_eq known,
      captured_deliverAll]

end Journal

end SqlAssembly
