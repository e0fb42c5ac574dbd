import SqlAssembly.Fault
import SqlAssembly.Value.Equality

/-!
# Comparison

Comparing two values goes through their parts, in the order of the parts, and
the first two parts that differ settle it.  Parts that live in one cell are the
same and are not compared.  Lists and mappings of different sizes differ at
once, fixed sequences only when all parts of the shorter one are the same.

A machine compares only so many levels deep, and to come upon that limit is a
fault.  A value that lies inside itself may bring the comparison back to the two
that it started from, until there is no level left.

A value that lies inside itself is emptied somewhere.  What was emptied was seen
further out, and the comparison goes on with that.

Main statement: a text is found among values, however deep they are, exactly
when one of them is the same (`findAmong_str`).
-/

namespace SqlAssembly

namespace Value

/-! ## Parts -/

/-- What two values are compared by. -/
structure Pairing where
  /-- Parts of one of them beside those of the other, in order. -/
  parts : List (Value × Value)
  /-- Whether the values are equal if those parts are the same. -/
  verdict : Bool
  deriving Inhabited, Repr

namespace Pairing

/-- Nothing has to be compared any more. -/
def settled (verdict : Bool) : Pairing := ⟨[], verdict⟩

/-- The items of two sequences, as far as both go. -/
def ofItems (items others : List Value) : Pairing :=
  ⟨items.zip others, items.length == others.length⟩

/-- The values of two mappings under the keys of the second one, up to one that the first lacks. -/
def ofEntries (others : Entries) : Entries → Pairing
  | [] => settled true
  | (key, value) :: rest => match others.get? key with
    | some other =>
      let pairing := ofEntries others rest
      { pairing with parts := (other, value) :: pairing.parts }
    | none => settled false

end Pairing

/-- What two fixed sequences are compared by: a prepared statement comes first beside a tuple. -/
def fixedPairing (v w : Value) (items others : List Value) : Pairing :=
  if v.kind = .tuple ∧ w.kind = .prepared then Pairing.ofItems others items
  else Pairing.ofItems items others

/-- What two values are compared by. -/
def pairing (v w : Value) : Pairing :=
  match v, w with
  | .list _ items, .list _ others =>
    if items.length = others.length then Pairing.ofItems items others
    else Pairing.settled false
  | .mapping _ entries, .mapping _ others =>
    if entries.length = others.length then Pairing.ofEntries others entries
    else Pairing.settled false
  | .options _ kind _ sort limit offset projections,
    .options _ kind' _ sort' limit' offset' projections' =>
    if kind = kind' then
      ⟨[(sort', sort), (limit', limit), (offset', offset), (projections', projections)], true⟩
    else Pairing.settled false
  | _, _ => match v.tupleItems?, w.tupleItems? with
    | some items, some others => fixedPairing v w items others
    | _, _ => Pairing.settled (v.equals w)

theorem pairing_str (v : Value) (s : String) :
    v.pairing (.str s) = Pairing.settled (v.equals (.str s)) := by
  cases v <;> simp [pairing, tupleItems?]

/-! ## Going deeper -/

/-- The values that a comparison has come through, by their cells, as they were seen first. -/
abbrev Trail := List (Nat × Value)

namespace Trail

/-- The value as it was seen first. -/
def full (trail : Trail) (v : Value) : Value :=
  (v.cell?.bind fun cell => trail.lookup cell).getD v

/-- The trail with a value more. -/
def through (trail : Trail) (v : Value) : Trail :=
  match v.cell? with
  | some cell => if (trail.lookup cell).isSome then trail else (cell, v) :: trail
  | none => trail

end Trail

/-- Whether parts are the same and the verdict is that the wholes are, given how to compare. -/
def allSame (compare : Value → Value → Except Fault Bool) (verdict : Bool) :
    List (Value × Value) → Except Fault Bool
  | [] => .ok verdict
  | (v, w) :: rest => do
    if inOneCell v w then allSame compare verdict rest
    else if ← compare v w then allSame compare verdict rest
    else return false

/-- Whether two values are equal, found out so many levels deep at most. -/
def comparedWithin : Nat → Trail → Value → Value → Except Fault Bool
  | 0, _, _, _ => .error .comparisonTooDeep
  | depth + 1, trail, v, w =>
    let pairing := pairing (trail.full v) (trail.full w)
    let trail := (trail.through v).through w
    allSame (comparedWithin depth trail) pairing.verdict pairing.parts

section

variable [Machine]

/-- Whether two values are equal, or the fault that comparing them goes too deep. -/
def compared (v w : Value) : Except Fault Bool := comparedWithin Machine.depth [] v w

/-- Whether one of some values is the same as a given one. -/
def findAmong (v : Value) : List Value → Except Fault Bool
  | [] => .ok false
  | other :: rest => do
    if inOneCell other v then return true
    else if ← other.compared v then return true
    else findAmong v rest

/-- Comparing anything with a text ends at once. -/
theorem compared_str (v : Value) (s : String) : v.compared (.str s) = .ok (v.equals (.str s)) := by
  obtain ⟨depth, levels⟩ := Nat.exists_eq_succ_of_ne_zero (Nat.ne_of_gt Machine.depth_pos)
  rw [compared, levels, comparedWithin]
  have first (u : Value) : Trail.full [] u = u := by cases h : u.cell? <;> simp [Trail.full, h]
  simp [first, pairing_str, Pairing.settled, allSame]

/-- A text is found exactly among values of which one is the same. -/
theorem findAmong_str (s : String) (vs : List Value) :
    findAmong (.str s) vs = .ok (vs.any (·.same (.str s))) := by
  induction vs with
  | nil => rfl
  | cons v vs ih =>
    have apart : inOneCell v (.str s) = false := by
      cases v.cell? <;> simp [inOneCell, cell?]
    cases equal : v.equals (.str s) <;>
      simp [findAmong, apart, compared_str, equal, ih, same, bind, Except.bind, pure, Except.pure]

end

end Value

end SqlAssembly
