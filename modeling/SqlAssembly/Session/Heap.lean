import SqlAssembly.Value.Node

/-!
# The heap of a session

A session gives a cell to every value that it keeps, and to every part of it.
The same node may then be reached in several ways: under two names, as a field
of a record, as an item of a list.  What is changed in it shows in all of them,
because the heap has one content for its cell.

The heap holds every node with the nodes in it emptied.  `read` fills them with
what lives in their cells.  A node may have come to lie inside itself, and then
there is no end to what could be read of it.  On the way from a node to those in
it, reading may come back twice to one that it has passed and starts over there;
where it comes back once more, the node stays empty.  That is enough: whatever
goes into a value goes at most two nodes deep before it writes out or compares
what it has found there, and this ends where it comes back to a node.
-/

namespace SqlAssembly

/-- What lives in cells. -/
structure Heap where
  /-- The nodes by their cells; of two for one cell the first counts. -/
  nodes : List (Nat × Value)
  /-- The first cell that nothing lives in. -/
  free : Nat
  deriving Inhabited, Repr

namespace Heap

/-- A heap in which nothing lives. -/
def empty : Heap := ⟨[], 0⟩

/-- The node that lives in a cell, with the nodes in it emptied. -/
def node? (heap : Heap) (cell : Nat) : Option Value := heap.nodes.lookup cell

/-- The heap with a node in a cell. -/
def put (heap : Heap) (cell : Nat) (node : Value) : Heap :=
  { heap with nodes := (cell, node.shallow) :: heap.nodes }

/-- The heap with one more cell taken. -/
def taken (heap : Heap) : Heap := { heap with free := heap.free + 1 }

/-- A node put in the free cell. -/
def add (heap : Heap) (node : Cell → Value) : Value × Heap :=
  (node (some heap.free), heap.taken.put heap.free (node (some heap.free)))

/-! ## Placing -/

mutual

/-- The value with a cell for itself and for every part; what has one keeps it, parts and all. -/
def place (heap : Heap) : Value → Value × Heap
  | .float none x => (.float (some heap.free) x, heap.taken)
  | .list none items =>
    let (items, heap) := heap.placeItems items
    heap.add (.list · items)
  | .tuple none items =>
    let (items, heap) := heap.placeItems items
    (.tuple (some heap.free) items, heap.taken)
  | .mapping none entries =>
    let (entries, heap) := heap.placeEntries entries
    heap.add (.mapping · entries)
  | .options none kind given sort limit offset projections =>
    let (sort, heap) := heap.place sort
    let (limit, heap) := heap.place limit
    let (offset, heap) := heap.place offset
    let (projections, heap) := heap.place projections
    (.options (some heap.free) kind given sort limit offset projections, heap.taken)
  | .prepared sql none params =>
    let (params, heap) := heap.placeItems params
    (.prepared sql (some heap.free) params, heap.taken)
  | v => (v, heap)

/-- The items with cells for all of them. -/
def placeItems (heap : Heap) : List Value → List Value × Heap
  | [] => ([], heap)
  | v :: vs =>
    let (v, heap) := heap.place v
    let (vs, heap) := heap.placeItems vs
    (v :: vs, heap)

/-- The entries with cells for all of them. -/
def placeEntries (heap : Heap) : List (Value × Value) → List (Value × Value) × Heap
  | [] => ([], heap)
  | (key, value) :: rest =>
    let (key, heap) := heap.place key
    let (value, heap) := heap.place value
    let (rest, heap) := heap.placeEntries rest
    ((key, value) :: rest, heap)

end

/-! ## Reading -/

/-- How often reading may come back to a node that it has passed. -/
def returns : Nat := 2

/-- What lives in the cell of a node, given a bound on the nodes to come, how often reading may
still come back, and the cells that it has passed since it last did. -/
def readNode (heap : Heap) : Nat → Nat → List Nat → Value → Value
  | 0, _, _, node => node
  | bound + 1, left, passed, node =>
    match node.cell? with
    | none => node
    | some cell => match heap.node? cell with
      | none => node
      | some stored =>
        if passed.contains cell then match left with
          | 0 => node
          | left + 1 => stored.mapInside (readNode heap bound left [cell])
        else stored.mapInside (readNode heap bound left (cell :: passed))

/-- The value with its nodes filled; between two returns no cell is passed twice. -/
def read (heap : Heap) (v : Value) : Value :=
  v.mapNodes (heap.readNode ((returns + 1) * heap.free + 1) returns [])

end Heap

end SqlAssembly
