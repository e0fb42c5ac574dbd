import SqlAssembly.Options.Validation
import SqlAssembly.Session.Store

/-!
# Terms

How a value is written in a session: a constant, a collection of terms, a
record made of named terms, or a name for a value that is kept.  A name stands
for the value itself and not for a copy.

A mapping takes its entries one after the other: a key that came before keeps
its place and gets the later value.  A record may turn out not to be valid.
-/

namespace SqlAssembly

/-- A value as it is written. -/
inductive Term
  | constant (v : Value)
  | list (items : List Term)
  | tuple (items : List Term)
  | mapping (entries : List (Term × Term))
  | options (kind : OptionsKind) (fields : List (String × Term))
  | kept (name : String)
  deriving Inhabited, Repr

namespace Term

/-- The value kept under a name. -/
def lookUp (store : Store) (name : String) : Except Fault Value :=
  match store.get? name with
  | some v => .ok v
  | none => .error (.missingKey (.str name))

variable [Machine]

/-- The record that a mapping describes, as a value. -/
def recordOf (kind : OptionsKind) (entries : Entries) : Except Fault Value :=
  match Options.ofEntries kind entries with
  | .ok o => .ok o.toValue
  | .error report => .error (.invalid report)

mutual

/-- The value that a term writes. -/
def value (store : Store) : Term → Except Fault Value
  | .constant v => .ok v
  | .list items => (values store items).map Value.ofItems
  | .tuple items => (values store items).map Value.ofParts
  | .mapping entries => (entryValues store entries).map fun pairs =>
    Value.ofEntries (Entries.ofList pairs)
  | .options kind fields => do
    let pairs ← fieldValues store fields
    recordOf kind (Entries.ofList pairs)
  | .kept name => lookUp store name

/-- The values that terms write. -/
def values (store : Store) : List Term → Except Fault (List Value)
  | [] => .ok []
  | term :: rest => do
    let v ← value store term
    let vs ← values store rest
    return v :: vs

/-- The keys and values that pairs of terms write; each key has to be one. -/
def entryValues (store : Store) :
    List (Term × Term) → Except Fault (List (Value × Value))
  | [] => .ok []
  | (key, item) :: rest => do
    let key ← value store key
    let item ← value store item
    let key ← key.asKey
    let pairs ← entryValues store rest
    return (key, item) :: pairs

/-- The values that named terms write. -/
def fieldValues (store : Store) :
    List (String × Term) → Except Fault (List (Value × Value))
  | [] => .ok []
  | (name, item) :: rest => do
    let item ← value store item
    let pairs ← fieldValues store rest
    return (.str name, item) :: pairs

end

/-- Nothing. -/
def nothing : Term := .constant .null

end Term

end SqlAssembly
