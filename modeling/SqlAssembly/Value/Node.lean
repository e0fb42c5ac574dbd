import SqlAssembly.Value.Basic

/-!
# Nodes

The nodes of a value are the lists and mappings in it, which are the parts of it
that can be changed.  All else is fixed, and a node is reached through it:
through the items of a tuple, the fields of a record or the parameters of a
prepared statement.

A node is *emptied* when only its cell is left of it; it then stands for
whatever lives in that cell.
-/

namespace SqlAssembly

namespace Value

mutual

/-- The value with something else in the place of its outermost nodes. -/
def mapNodes (f : Value → Value) : Value → Value
  | .list cell items => f (.list cell items)
  | .tuple cell items => .tuple cell (mapNodesOf f items)
  | .mapping cell entries => f (.mapping cell entries)
  | .options cell kind given sort limit offset projections =>
    .options cell kind given (sort.mapNodes f) (limit.mapNodes f) (offset.mapNodes f)
      (projections.mapNodes f)
  | .prepared sql cell params => .prepared sql cell (mapNodesOf f params)
  | v => v

/-- The items with something else in the place of their outermost nodes. -/
def mapNodesOf (f : Value → Value) : List Value → List Value
  | [] => []
  | v :: vs => v.mapNodes f :: mapNodesOf f vs

end

/-- The node with something else in the place of the nodes next to it; keys hold no nodes. -/
def mapInside (f : Value → Value) : Value → Value
  | .list cell items => .list cell (mapNodesOf f items)
  | .mapping cell entries =>
    .mapping cell (entries.map fun entry => (entry.1, entry.2.mapNodes f))
  | v => v

/-- The node with nothing left but its cell. -/
def emptied : Value → Value
  | .list cell _ => .list cell []
  | .mapping cell _ => .mapping cell []
  | v => v

/-- The value with its nodes emptied. -/
def reference (v : Value) : Value := v.mapNodes emptied

/-- The node with the nodes in it emptied. -/
def shallow (v : Value) : Value := v.mapInside emptied

example : (ofParts [.list (some 3) [.null]]).reference = ofParts [.list (some 3) []] := rfl

end Value

end SqlAssembly
