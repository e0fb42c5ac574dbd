import SqlAssembly.Sort.Merge

/-!
# Adaptive merge sort

A list is sorted by finding its runs from left to right and merging those that
are next to each other.  Which are merged when follows from where they lie.
Between the middles of two neighbours there is a power: how often the list has
to be halved until its cuts part the two.  Neighbours that only a high power
parts are merged before those that a low one does, so that the merges come close
to those of a balanced tree.

When all runs are found, the rest is merged from the right, and a run is merged
with the shorter one of its neighbours.
-/

namespace SqlAssembly.Sort

variable {α ε : Type}

/-- A run that waits to be merged. -/
structure Waiting (α : Type) where
  /-- How many items lie before it. -/
  start : Nat
  /-- Its items, in order. -/
  items : List α
  /-- The power between it and the run after it. -/
  power : Nat

/-- The runs that wait, the last one first, and the patience for the next merge. -/
structure Progress (α : Type) where
  /-- The runs that wait. -/
  waiting : List (Waiting α)
  /-- How many items of one run are taken in a row before leaps are tried. -/
  patience : Nat

/-- The power between a run at some place and one of a given length that follows it. -/
def power (total start length next : Nat) : Nat :=
  let left := 2 * start + length
  let right := left + length + next
  ((List.range (total.log2 + 2)).find? fun k =>
    left * Nat.pow 2 k / total != right * Nat.pow 2 k / total).getD 0

namespace Progress

/-- No run waits. -/
def start : Progress α := ⟨[], Merging.longLeap⟩

/-- Two neighbours merged, in the place of the first. -/
def merged (less : Comparison α ε) (patience : Nat) (first second : Waiting α) :
    Except ε (Nat × Waiting α) := do
  let (patience, items) ← mergeRuns less patience first.items second.items
  return (patience, ⟨first.start, items, first.power⟩)

/-- The last runs merged as long as a higher power than the given one parts them. -/
def mergeAbove (less : Comparison α ε) (limit : Nat) :
    Nat → Progress α → Except ε (Progress α)
  | 0, progress => .ok progress
  | fuel + 1, progress => match progress.waiting with
    | second :: first :: before =>
      if limit < first.power then do
        let (patience, run) ← merged less progress.patience first second
        mergeAbove less limit fuel ⟨run :: before, patience⟩
      else .ok progress
    | _ => .ok progress

/-- The last run with the power between it and the next one. -/
def withPower (power : Nat) : List (Waiting α) → List (Waiting α)
  | last :: before => { last with power := power } :: before
  | [] => []

/-- A run more, of so many items in all. -/
def add (less : Comparison α ε) (total : Nat) (progress : Progress α) (run : List α) :
    Except ε (Progress α) :=
  match progress.waiting with
  | [] => .ok { progress with waiting := [⟨0, run, 0⟩] }
  | last :: _ => do
    let between := power total last.start last.items.length run.length
    let progress ← mergeAbove less between progress.waiting.length progress
    let next : Waiting α := ⟨last.start + last.items.length, run, 0⟩
    return { progress with waiting := next :: withPower between progress.waiting }

/-- One run made of all that wait. -/
def collapse (less : Comparison α ε) : Nat → Progress α → Except ε (List α)
  | 0, progress => .ok (progress.waiting.reverse.flatMap Waiting.items)
  | fuel + 1, progress => match progress.waiting with
    | [] => .ok []
    | [run] => .ok run.items
    | [second, first] => do
      let (patience, run) ← merged less progress.patience first second
      collapse less fuel ⟨[run], patience⟩
    | third :: second :: first :: before =>
      if first.items.length < third.items.length then do
        let (patience, run) ← merged less progress.patience first second
        collapse less fuel ⟨third :: run :: before, patience⟩
      else do
        let (patience, run) ← merged less progress.patience second third
        collapse less fuel ⟨run :: first :: before, patience⟩

/-- The runs of a list found and merged; each takes at least one item. -/
def takeAll (less : Comparison α ε) (total : Nat) :
    Nat → List α → Progress α → Except ε (Progress α)
  | 0, _, progress => .ok progress
  | _, [], progress => .ok progress
  | fuel + 1, v :: vs, progress => do
    let (run, rest) ← nextRun less (leastLength total) (v :: vs)
    let progress ← add less total progress run
    takeAll less total fuel rest progress

end Progress

/-- The items in order. -/
def sorted (less : Comparison α ε) (vs : List α) : Except ε (List α) := do
  let progress ← Progress.takeAll less vs.length vs.length vs Progress.start
  progress.collapse less progress.waiting.length

example : (sorted (fun m n : Nat => (Except.ok (decide (m < n)) : Except Unit Bool))
    [3, 1, 2, 5, 4, 4, 0]).toOption = some [0, 1, 2, 3, 4, 4, 5] := by decide +kernel

end SqlAssembly.Sort
