import SqlAssembly.Options.Record
import SqlAssembly.Value.Sequence

/-!
# Records as plain data

A record of one kind is made into one of the other by way of a mapping.  The
mapping holds what the record was given, without what is empty, and it is plain
all through: a record in it becomes a mapping, too, and a prepared statement a
tuple.

The keys of a mapping become plain with their values.  A key that was a record
is a mapping then, which cannot be a key.

A collection that lies inside itself is not made plain again there.
-/

namespace SqlAssembly

namespace Value

/-- A field as an entry of a mapping. -/
def fieldEntry (sort limit offset projections : Value) (f : OptionField) : Value × Value :=
  (.str f.name, field sort limit offset projections f)

/-- The fields that were given something, as the entries of a mapping, in order. -/
def givenEntries (kind : OptionsKind) (given : List OptionField)
    (sort limit offset projections : Value) : Entries :=
  (kind.fields.filter fun f =>
      given.contains f && (field sort limit offset projections f).kind != .null).map
    (fieldEntry sort limit offset projections)

mutual

/-- The value as plain data, given the cells of the collections around it. -/
def plainWithin (around : List Nat) : Value → Except Fault Value
  | .list cell items =>
    if isWithin around cell then .ok (.list cell items)
    else (plainItems (inside around cell) items).map ofItems
  | .tuple cell items =>
    if isWithin around cell then .ok (.tuple cell items)
    else (plainItems (inside around cell) items).map ofParts
  | .mapping cell entries =>
    if isWithin around cell then .ok (.mapping cell entries)
    else (plainEntries (inside around cell) entries).map (ofEntries ∘ Entries.ofList)
  | .options _ kind given sort limit offset projections => do
    let sort ← match sort with
      | .mapping _ entries => (plainEntries around entries).map (ofEntries ∘ Entries.ofList)
      | v => .ok v
    let projections ← match projections with
      | .list _ items => (plainItems around items).map ofItems
      | v => .ok v
    return ofEntries (givenEntries kind given sort limit offset projections)
  | .prepared sql cell params =>
    if isWithin around cell then .ok (ofParts [.str sql, .tuple cell params])
    else (plainItems (inside around cell) params).map fun params =>
      ofParts [.str sql, ofParts params]
  | v => .ok v

/-- The items as plain data. -/
def plainItems (around : List Nat) : List Value → Except Fault (List Value)
  | [] => .ok []
  | v :: vs => do
    let v ← v.plainWithin around
    let vs ← plainItems around vs
    return v :: vs

/-- The entries with their keys and values as plain data. -/
def plainEntries (around : List Nat) :
    List (Value × Value) → Except Fault (List (Value × Value))
  | [] => .ok []
  | (key, value) :: rest => do
    let key ← key.plainWithin around
    let value ← value.plainWithin around
    let key ← key.asKey
    let rest ← plainEntries around rest
    return (key, value) :: rest

end

/-- The value as plain data. -/
def plain (v : Value) : Except Fault Value := v.plainWithin []

example : plain (.options none .find [.limit, .offset] .null (.int 1) .null .null) =
    .ok (ofEntries [(.str "limit", .int 1)]) := rfl

end Value

namespace Options

/-- What a record was given, as the entries of a mapping, in order. -/
def givenEntries (o : Options) : Entries :=
  Value.givenEntries o.kind o.given o.sort o.limit o.offset o.projections

/-- A record with nothing to be made plain becomes the mapping of what it was given. -/
theorem plain_toValue {o : Options} (sort : o.sort = .null) (projections : o.projections = .null) :
    o.toValue.plain = .ok (Value.ofEntries o.givenEntries) := by
  simp [toValue, Value.plain, Value.plainWithin, givenEntries, sort, projections, bind,
    Except.bind, pure, Except.pure]

end Options

end SqlAssembly
