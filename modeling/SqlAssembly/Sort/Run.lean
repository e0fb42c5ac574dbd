/-!
# Runs

A run is a list that is in order already.  Sorting starts from the runs that a
list begins with: the longest beginning in which no item comes before the one
ahead of it, or else the longest in which each one does, turned around.  A run
that is too short to be merged is extended, item by item, by binary insertion.

Whether an item comes before another one is asked of a comparison, which may
fail.  The order in which it is asked is part of what is defined here, because
the first failure ends the sorting.
-/

namespace SqlAssembly.Sort

variable {α ε : Type}

/-- Whether an item comes before another one, or why that cannot be said. -/
abbrev Comparison (α ε : Type) := α → α → Except ε Bool

/-! ## Insertion -/

/-- Where an item goes among sorted ones, between two bounds: by halving, after its equals. -/
def insertionPoint (less : Comparison α ε) (v : α) (sorted : List α) :
    Nat → Nat → Nat → Except ε Nat
  | 0, low, _ => .ok low
  | fuel + 1, low, high =>
    if low < high then
      let middle := low + (high - low) / 2
      match sorted[middle]? with
      | some w => do
        if ← less v w then insertionPoint less v sorted fuel low middle
        else insertionPoint less v sorted fuel (middle + 1) high
      | none => .ok low
    else .ok low

/-- Sorted items with another one put in its place. -/
def insert (less : Comparison α ε) (sorted : List α) (v : α) : Except ε (List α) := do
  let point ← insertionPoint less v sorted (sorted.length + 1) 0 sorted.length
  return sorted.take point ++ v :: sorted.drop point

/-! ## Finding runs -/

/-- The items that go on a run, each compared with the one before it, and the rest. -/
def goingOn (less : Comparison α ε) (downward : Bool) (last : α) :
    List α → Except ε (List α × List α)
  | [] => .ok ([], [])
  | v :: vs => do
    if (← less v last) == downward then
      let (more, rest) ← goingOn less downward v vs
      return (v :: more, rest)
    else return ([], v :: vs)

/-- The run that a list begins with, in order, and the rest. -/
def firstRun (less : Comparison α ε) : List α → Except ε (List α × List α)
  | v :: w :: vs => do
    let downward ← less w v
    let (more, rest) ← goingOn less downward w vs
    let run := v :: w :: more
    return (if downward then run.reverse else run, rest)
  | vs => .ok (vs, [])

/-- The least length of a run among so many items: from 32 to 64, or all of them if they are few.

It is the number of items divided by a power of two, rounded up, so that about as many
runs as a power of two are left to be merged. -/
def leastLength (n : Nat) : Nat :=
  let share := Nat.pow 2 (n.log2 - 5)
  (n + share - 1) / share

/-- The run that a list begins with, extended to a least length, and the rest. -/
def nextRun (less : Comparison α ε) (least : Nat) (vs : List α) :
    Except ε (List α × List α) := do
  let (run, rest) ← firstRun less vs
  let wanted := least - run.length
  let run ← (rest.take wanted).foldlM (insert less) run
  return (run, rest.drop wanted)

example : [64, 65, 127, 128, 1000].map leastLength = [32, 33, 64, 32, 63] := by decide +kernel

end SqlAssembly.Sort
