import SqlAssembly.Session.Heap
import SqlAssembly.Settings.Environment

/-!
# The store of a session

A session keeps values under names.  Every list and every mapping that it keeps
lives in a cell of its own, so that a change of one shows under every name that
leads to it, and in nothing else.

Options records and sort directions take notes: values under names of the
caller's own, which count for nothing but themselves.  A note on a record
belongs to that very record and not to one that is equal to it.
-/

namespace SqlAssembly

/-- Whom a note belongs to. -/
inductive Owner
  | record (cell : Nat)
  | direction (d : Direction)
  deriving DecidableEq, Repr, Inhabited

/-- Whom the notes on a value belong to. -/
def Value.owner? : Value → Option Owner
  | .options (some cell) .. => some (.record cell)
  | .direction d => some (.direction d)
  | _ => none

/-- Values under names, what lives in their cells, and notes. -/
structure Store where
  /-- The values, by name; their nodes are emptied. -/
  kept : Bindings Value
  /-- What lives in their cells. -/
  heap : Heap
  /-- The notes by their owners and names; of two for one name the first counts. -/
  notes : List ((Owner × String) × Value)
  deriving Inhabited, Repr

namespace Store

/-- A store in which nothing is kept. -/
def empty : Store := ⟨[], Heap.empty, []⟩

/-- A value with a cell for each of its parts, and the store without those cells. -/
def place (store : Store) (v : Value) : Value × Store :=
  let (v, heap) := store.heap.place v
  (v, { store with heap := heap })

/-- The value under a name. -/
def get? (store : Store) (name : String) : Option Value :=
  (store.kept.get? name).map store.heap.read

/-- The store with a value under a name. -/
def keep (store : Store) (name : String) (v : Value) : Store :=
  let (v, store) := store.place v
  { store with kept := store.kept.put name v.reference }

/-- The store with a node changed wherever it is kept. -/
def change (store : Store) (node : Value) : Store :=
  match node.cell? with
  | none => store
  | some cell => { store with heap := store.heap.put cell node }

/-- The note on a value under a name. -/
def note? (store : Store) (target : Value) (name : String) : Option Value := do
  let owner ← target.owner?
  let v ← store.notes.lookup (owner, name)
  return store.heap.read v

/-- The store with a note on a value. -/
def addNote (store : Store) (target : Value) (name : String) (v : Value) : Store :=
  match target.owner? with
  | none => store
  | some owner => { store with notes := ((owner, name), v.reference) :: store.notes }

end Store

end SqlAssembly
