import SqlAssembly.Value.Basic

/-!
# Options records

The record that a statement is built from, as a structure.  A field that was
not given is empty.  `toValue` is the record as a value, which is how a caller
sees it; `ofValue?` is its inverse.
-/

namespace SqlAssembly

/-- How the rows of a statement are ordered and counted, and which columns are returned. -/
structure Options where
  /-- The cell it lives in, if it has been kept. -/
  cell : Cell
  /-- Which fields it has. -/
  kind : OptionsKind
  /-- The fields that were given, in order. -/
  given : List OptionField
  /-- The columns with their directions. -/
  sort : Value
  /-- How many rows at most. -/
  limit : Value
  /-- How many rows to leave out first. -/
  offset : Value
  /-- The columns to return. -/
  projections : Value
  deriving Inhabited, Repr

namespace Options

/-- The record of a kind to which nothing was given. -/
def blank (kind : OptionsKind) : Options := ⟨none, kind, [], .null, .null, .null, .null⟩

/-- The value of a field. -/
def field (o : Options) (f : OptionField) : Value :=
  Value.field o.sort o.limit o.offset o.projections f

/-- The record as a value. -/
def toValue (o : Options) : Value :=
  .options o.cell o.kind o.given o.sort o.limit o.offset o.projections

/-- The record that a value is. -/
def ofValue? : Value → Option Options
  | .options cell kind given sort limit offset projections =>
    some ⟨cell, kind, given, sort, limit, offset, projections⟩
  | _ => none

@[simp] theorem ofValue?_toValue (o : Options) : ofValue? o.toValue = some o := rfl

theorem ofValue?_eq_some_iff {v : Value} {o : Options} :
    ofValue? v = some o ↔ v = o.toValue := by
  constructor
  · intro h
    cases v <;> simp [ofValue?] at h
    subst h
    rfl
  · rintro rfl
    rfl

end Options

end SqlAssembly
