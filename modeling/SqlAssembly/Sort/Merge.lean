import SqlAssembly.Sort.Run

/-!
# Merging two runs

Two runs that follow each other are merged into one, items of the first before
their equals in the second.  What is in place already, at the start of the first
run and at the end of the second, takes no part.

The shorter run is set aside, and the merge proceeds from the end at which that
one stood: forward if it is the first, else backward, on reversed lists.  One
item is taken at a time from the run whose head is next.  When one run has given
so many items in a row that patience is at an end, items are taken by leaps: as
many from one run as are next before the head of the other.  Leaps that are long
make patience shorter, and leaps that are not make it longer.

The longer run always ends first or leaves a single item of the shorter one, so
that what is left of the longer run comes before what is left of the shorter.
-/

namespace SqlAssembly.Sort

variable {α ε : Type}

/-! ## Leaps -/

/-- From a position that passes, the last one known to pass and the next one known not to.

The steps are doubled as long as they succeed. -/
def stride (passes : α → Except ε Bool) (vs : List α) : Nat → Nat → Nat → Except ε (Nat × Nat)
  | 0, last, next => .ok (last, next)
  | fuel + 1, last, next => match vs[next]? with
    | none => .ok (last, vs.length)
    | some v => do
      if ← passes v then stride passes vs fuel next (2 * next + 1) else return (last, next)

/-- The position of the first item that does not pass, among so many from a position on. -/
def halve (middle : Nat → Nat) (passes : α → Except ε Bool) (vs : List α) :
    Nat → Nat → Nat → Except ε Nat
  | 0, first, _ => .ok first
  | fuel + 1, first, size =>
    if size = 0 then .ok first
    else
      let position := first + middle size
      match vs[position]? with
      | none => .ok first
      | some v => do
        if ← passes v then
          halve middle passes vs fuel (position + 1) (size - middle size - 1)
        else halve middle passes vs fuel first (middle size)

/-- How many items at the start of a list pass, found by doubled steps and then by halving. -/
def leap (middle : Nat → Nat) (passes : α → Except ε Bool) (vs : List α) : Except ε Nat :=
  match vs with
  | [] => .ok 0
  | v :: _ => do
    if ← passes v then
      let (last, next) ← stride passes vs vs.length 0 1
      halve middle passes vs vs.length (last + 1) (next - (last + 1))
    else return 0

/-! ## Steps of a merge -/

/-- The way in which a merge proceeds. -/
structure Way (α ε : Type) where
  /-- Whether the head of the longer run is next, given the head of the shorter one first. -/
  overtakes : α → α → Except ε Bool
  /-- Where a stretch is halved. -/
  middle : Nat → Nat
  /-- Whether the shorter run leaps first. -/
  shorterFirst : Bool

/-- Forward: the shorter run is the first one, and it has precedence among equals. -/
def forward (less : Comparison α ε) : Way α ε := ⟨fun s l => less l s, (· / 2), true⟩

/-- Backward: the shorter run is the second one, and greater items are next. -/
def backward (less : Comparison α ε) : Way α ε := ⟨less, fun n => (n - 1) / 2, false⟩

/-- A merge under way: what is merged, and what is left of the two runs. -/
structure Merging (α : Type) where
  /-- What is merged, in order. -/
  done : List α
  /-- What is left of the shorter run. -/
  shorter : List α
  /-- What is left of the longer run. -/
  longer : List α

namespace Merging

/-- Whether nothing is left to be compared. -/
def isOver (m : Merging α) : Bool := m.longer.isEmpty || m.shorter.length ≤ 1

/-- Everything in order, once the merge is over. -/
def result (m : Merging α) : List α := m.done ++ m.longer ++ m.shorter

/-- Items of the shorter run taken. -/
def takeShorter (m : Merging α) (count : Nat) : Merging α :=
  ⟨m.done ++ m.shorter.take count, m.shorter.drop count, m.longer⟩

/-- Items of the longer run taken. -/
def takeLonger (m : Merging α) (count : Nat) : Merging α :=
  ⟨m.done ++ m.longer.take count, m.shorter, m.longer.drop count⟩

/-- One item at a time, until the merge is over or one run has given enough in a row. -/
def oneByOne (way : Way α ε) (patience : Nat) :
    Nat → Nat → Nat → Merging α → Except ε (Merging α)
  | 0, _, _, m => .ok m
  | fuel + 1, fromShorter, fromLonger, m => match m.shorter, m.longer with
    | s :: _, l :: _ => do
      if ← way.overtakes s l then
        let m := m.takeLonger 1
        if m.isOver || patience ≤ fromLonger + 1 then return m
        else oneByOne way patience fuel 0 (fromLonger + 1) m
      else
        let m := m.takeShorter 1
        if m.isOver || patience ≤ fromShorter + 1 then return m
        else oneByOne way patience fuel (fromShorter + 1) 0 m
    | _, _ => .ok m

/-- A leap in the shorter run, then one item of the longer; the length of the leap. -/
def leapShorter (way : Way α ε) (m : Merging α) : Except ε (Nat × Merging α) :=
  match m.longer with
  | [] => .ok (0, m)
  | l :: _ => do
    let count ← leap way.middle (fun s => return !(← way.overtakes s l)) m.shorter
    let m := m.takeShorter count
    return (count, if m.isOver then m else m.takeLonger 1)

/-- A leap in the longer run, then one item of the shorter; the length of the leap. -/
def leapLonger (way : Way α ε) (m : Merging α) : Except ε (Nat × Merging α) :=
  match m.shorter with
  | [] => .ok (0, m)
  | s :: _ => do
    let count ← leap way.middle (way.overtakes s) m.longer
    let m := m.takeLonger count
    return (count, if m.isOver then m else m.takeShorter 1)

/-- How long a leap has to be to pay off. -/
def longLeap : Nat := 7

/-- By leaps, until the merge is over or both runs leap short; the patience that is left. -/
def byLeaps (way : Way α ε) : Nat → Nat → Merging α → Except ε (Nat × Merging α)
  | 0, patience, m => .ok (patience, m)
  | fuel + 1, patience, m => do
    let patience := if 1 < patience then patience - 1 else patience
    let (one, m) ← if way.shorterFirst then m.leapShorter way else m.leapLonger way
    if m.isOver then return (patience, m)
    let (other, m) ← if way.shorterFirst then m.leapLonger way else m.leapShorter way
    if m.isOver then return (patience, m)
    if longLeap ≤ one ∨ longLeap ≤ other then byLeaps way fuel patience m
    else return (patience + 1, m)

/-- The merge carried through, by one way of taking items after the other. -/
def finish (way : Way α ε) : Nat → Nat → Merging α → Except ε (Nat × List α)
  | 0, patience, m => .ok (patience, m.result)
  | fuel + 1, patience, m => do
    if m.isOver then return (patience, m.result)
    let size := m.shorter.length + m.longer.length
    let m ← oneByOne way patience size 0 0 m
    if m.isOver then return (patience, m.result)
    let (patience, m) ← byLeaps way size (patience + 1) m
    finish way fuel patience m

end Merging

/-! ## Runs -/

/-- Two runs merged, the shorter one first; an item of the longer one is known to be next. -/
def mergeFrom (way : Way α ε) (patience : Nat) (shorter longer : List α) :
    Except ε (Nat × List α) :=
  Merging.finish way (shorter.length + longer.length) patience
    (Merging.takeLonger ⟨[], shorter, longer⟩ 1)

/-- Two runs merged, of which neither begins or ends what they make together. -/
def mergeInner (less : Comparison α ε) (patience : Nat) (first second : List α) :
    Except ε (Nat × List α) := do
  if first.length ≤ second.length then mergeFrom (forward less) patience first second
  else
    let (patience, merged) ← mergeFrom (backward less) patience second.reverse first.reverse
    return (patience, merged.reverse)

/-- Two runs merged into one, and the patience that is left. -/
def mergeRuns (less : Comparison α ε) (patience : Nat) (first second : List α) :
    Except ε (Nat × List α) :=
  match second with
  | [] => .ok (patience, first)
  | head :: _ => do
    let before ← leap (· / 2) (fun v => return !(← less head v)) first
    match (first.drop before).getLast? with
    | none => return (patience, first ++ second)
    | some last =>
      let after ← leap (fun n => (n - 1) / 2) (fun v => return !(← less v last)) second.reverse
      let count := second.length - after
      if count = 0 then return (patience, first ++ second)
      let (patience, merged) ←
        mergeInner less patience (first.drop before) (second.take count)
      return (patience, first.take before ++ merged ++ second.drop count)

end SqlAssembly.Sort
