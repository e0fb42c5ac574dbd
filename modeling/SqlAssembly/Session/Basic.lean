import SqlAssembly.Journal.Plan
import SqlAssembly.Operation
import SqlAssembly.Session.Term
import SqlAssembly.Settings.Location

/-!
# Sessions

A session is what a host keeps between two uses of the library: the
environment, the settings once they are read, the journal, and the values that
it has kept under names.

An operation works at a desk made from the session.  When it has ended, its
events are published in the journal.  An event that has no written form ends
the operation there, and its fault is then the outcome, whatever the outcome
would have been.
-/

namespace SqlAssembly

/-- What a host keeps between two uses of the library, the machine it runs on included. -/
structure Session where
  /-- What settings are read from. -/
  environment : Environment
  /-- The settings, once they are read. -/
  cache : Option Settings
  /-- The journal. -/
  journal : Journal
  /-- The values under names. -/
  store : Store
  /-- The home directories of the machine. -/
  homes : Homes
  /-- The time. -/
  clock : Clock
  deriving Inhabited, Repr

/-- Something done in a session, which has a result or a fault. -/
abbrev Activity := ExceptT Fault (StateM Session)

namespace Session

/-- A session in which nothing was done yet. -/
def fresh (process : Bindings String) (homes : Homes) (storage : Storage) (clock : Clock) :
    Session where
  environment := ⟨process, []⟩
  cache := none
  journal := Journal.fresh storage
  store := Store.empty
  homes := homes
  clock := clock

/-- The desk for an operation. -/
def desk (session : Session) : Desk := ⟨session.environment, session.cache, []⟩

/-- The home directories: a variable stands for the user's own before what is known of it. -/
def knownHomes (session : Session) : Homes where
  own := session.environment.process.get? "HOME" <|> session.homes.own
  accounts := session.homes.accounts

variable [Machine]

/-- The session after an operation, and the fault of an event that has no written form. -/
def afterDesk (session : Session) (desk : Desk) : Option Fault × Session :=
  let (unwritten, journal) := session.journal.publishAll session.clock desk.events
  (unwritten, { session with cache := desk.cache, journal := journal })

/-- An operation performed in a session. -/
def work {α : Type} (operation : Build α) : Activity α := fun session =>
  let (outcome, desk) := operation session.desk
  match session.afterDesk desk with
  | (some fault, after) => (.error fault, after)
  | (none, after) => (outcome, after)

/-- The value that a term writes, with a cell for each of its parts. -/
def evaluate (term : Term) : Activity Value := fun session =>
  match term.value session.store with
  | .error fault => (.error fault, session)
  | .ok v =>
    let (v, store) := session.store.place v
    (.ok v, { session with store := store })

/-- A value kept under a name, if one is given. -/
def keep (name : Option String) (v : Value) : Activity Unit :=
  match name with
  | none => return ()
  | some name => modify fun session => { session with store := session.store.keep name v }

/-- The environment changed. -/
def changeEnvironment (change : Environment → Environment) : Activity Unit :=
  modify fun session => { session with environment := change session.environment }

/-- The journal changed. -/
def changeJournal (change : Journal → Journal) : Activity Unit :=
  modify fun session => { session with journal := change session.journal }

theorem work_of_no_events {α : Type} {operation : Build α} {session : Session}
    {outcome : Except Fault α} {desk : Desk}
    (h : operation session.desk = (outcome, desk)) (quiet : desk.events = []) :
    work operation session = (outcome, { session with cache := desk.cache }) := by
  simp [work, h, afterDesk, quiet, Journal.publishAll]

end Session

end SqlAssembly
