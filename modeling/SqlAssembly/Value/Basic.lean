import SqlAssembly.Number.Binary64
import SqlAssembly.Options.Schema

/-!
# Values

The arguments of the library are loosely typed: a table name is meant to be a
text and the criteria to be a mapping, but any value may arrive, and what
happens then is part of the contract.  `Value` is the type of all of them.

A value that a session has kept carries the cell it lives in, so that one
mapping seen twice differs from two equal mappings; a value without a cell has
not been kept yet.  Only the kinds for which this can show have cells: a number
with a point, which may be undefined and so differ from itself, whatever may
come to lie inside itself, and a record.

A mapping keeps its entries in the order in which their keys first came.
-/

namespace SqlAssembly

/-- The cell a value lives in, if it has been kept. -/
abbrev Cell := Option Nat

/-- An argument or a result. -/
inductive Value
  | null
  | bool (b : Bool)
  | int (n : Int)
  | float (cell : Cell) (x : Binary64)
  | str (s : String)
  | bytes (octets : List UInt8)
  | direction (d : Direction)
  | list (cell : Cell) (items : List Value)
  | tuple (cell : Cell) (items : List Value)
  | mapping (cell : Cell) (entries : List (Value × Value))
  | options (cell : Cell) (kind : OptionsKind) (given : List OptionField)
      (sort limit offset projections : Value)
  | prepared (sql : String) (cell : Cell) (params : List Value)
  deriving Inhabited, Repr

/-- The entries of a mapping, in order. -/
abbrev Entries := List (Value × Value)

/-- What sort of value it is; a slice is what is asked of a sequence when a part is taken. -/
inductive Kind
  | null
  | bool
  | int
  | float
  | str
  | bytes
  | direction
  | list
  | tuple
  | mapping
  | options (kind : OptionsKind)
  | prepared
  | slice
  deriving DecidableEq, Repr, Inhabited

/-- The name of a kind in messages. -/
def Kind.name : Kind → String
  | .null => "NoneType"
  | .bool => "bool"
  | .int => "int"
  | .float => "float"
  | .str => "str"
  | .bytes => "bytes"
  | .direction => "SortDirection"
  | .list => "list"
  | .tuple => "tuple"
  | .mapping => "dict"
  | .options kind => kind.name
  | .prepared => "BoundStatement"
  | .slice => "slice"

namespace Value

/-- The kind of a value. -/
def kind : Value → Kind
  | .null => .null
  | .bool _ => .bool
  | .int _ => .int
  | .float _ _ => .float
  | .str _ => .str
  | .bytes _ => .bytes
  | .direction _ => .direction
  | .list _ _ => .list
  | .tuple _ _ => .tuple
  | .mapping _ _ => .mapping
  | .options _ kind _ _ _ _ _ => .options kind
  | .prepared _ _ _ => .prepared

/-- Whether a value counts as given: nothing, false, zero and everything empty do not. -/
def isGiven : Value → Bool
  | .null => false
  | .bool b => b
  | .int n => n != 0
  | .float _ x => !x.isZero
  | .str s => !s.isEmpty
  | .bytes octets => !octets.isEmpty
  | .direction _ => true
  | .list _ items => !items.isEmpty
  | .tuple _ items => !items.isEmpty
  | .mapping _ entries => !entries.isEmpty
  | .options .. => true
  | .prepared .. => true

/-! ## Views

A value may be seen as a text, an octet string, an integer, a place on the
number line or a sequence; a sort direction is seen as its token and a truth
value as zero or one. -/

/-- The text that a value is. -/
def text? : Value → Option String
  | .str s => some s
  | .direction d => some d.token
  | _ => none

/-- The octet string that a value is. -/
def octets? : Value → Option (List UInt8)
  | .bytes octets => some octets
  | _ => none

/-- The integer that a value is. -/
def integer? : Value → Option Int
  | .bool b => some b.toNat
  | .int n => some n
  | _ => none

/-- Where a value lies on the number line. -/
def place? : Value → Option Place
  | .bool b => some (.ofInt b.toNat)
  | .int n => some (.ofInt n)
  | .float _ x => some x.place
  | _ => none

/-- The items of a fixed sequence; a prepared statement is its text and its parameters. -/
def tupleItems? : Value → Option (List Value)
  | .tuple _ items => some items
  | .prepared sql cell params => some [.str sql, .tuple cell params]
  | _ => none

/-- The cell that a value lives in.

A prepared statement carries the cell of its parameters and has none of its own. -/
def cell? : Value → Cell
  | .float cell _ => cell
  | .list cell _ => cell
  | .tuple cell _ => cell
  | .mapping cell _ => cell
  | .options cell _ _ _ _ _ _ => cell
  | _ => none

/-- A number with a point not kept yet. -/
def ofNumber (x : Binary64) : Value := .float none x

/-- A list not kept yet. -/
def ofItems (items : List Value) : Value := .list none items

/-- A tuple not kept yet. -/
def ofParts (items : List Value) : Value := .tuple none items

/-- A mapping not kept yet. -/
def ofEntries (entries : Entries) : Value := .mapping none entries

/-- The field of an options record. -/
def field (sort limit offset projections : Value) : OptionField → Value
  | .sort => sort
  | .limit => limit
  | .offset => offset
  | .projections => projections

/-- The fields of an options record with their values, in order. -/
def fieldValues (kind : OptionsKind) (sort limit offset projections : Value) :
    List (OptionField × Value) :=
  kind.fields.map fun f => (f, field sort limit offset projections f)

@[simp] theorem isGiven_str (s : String) : (Value.str s).isGiven = !s.isEmpty := rfl

@[simp] theorem isGiven_mapping (cell : Cell) (entries : Entries) :
    (Value.mapping cell entries).isGiven = !entries.isEmpty := rfl

@[simp] theorem isGiven_list (cell : Cell) (items : List Value) :
    (Value.list cell items).isGiven = !items.isEmpty := rfl

end Value

end SqlAssembly
