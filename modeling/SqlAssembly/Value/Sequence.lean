import SqlAssembly.Value.Comparison

/-!
# Values as sequences

What a value does when it is gone through, measured, searched, picked from,
changed or joined.  A text is a sequence of texts of one character, an octet string one of
integers, a mapping one of its keys, and an options record one of its fields,
each with its value.  Each operation has its own fault for a value that does
not allow it.

Only texts can be joined; a sort direction counts as its token.
-/

namespace SqlAssembly

namespace Value

/-! ## Going through -/

/-- The characters of a text, each as a text. -/
def characters (s : String) : List Value := s.toList.map fun c => .str (String.singleton c)

/-- The items of a value, if it has any to go through. -/
def items? : Value → Option (List Value)
  | .str s => some (characters s)
  | .direction d => some (characters d.token)
  | .bytes octets => some (octets.map fun octet => .int octet.toNat)
  | .list _ items => some items
  | .tuple _ items => some items
  | .mapping _ entries => some (Entries.keys entries)
  | .options _ kind _ sort limit offset projections =>
    some ((fieldValues kind sort limit offset projections).map fun entry =>
      ofParts [.str entry.1.name, entry.2])
  | .prepared sql cell params => some [.str sql, .tuple cell params]
  | _ => none

/-- The items of a value. -/
def items (v : Value) : Except Fault (List Value) :=
  match v.items? with
  | some vs => .ok vs
  | none => .error (.notIterable v.kind)

/-- The number of items; an options record can be gone through and has no size. -/
def size (v : Value) : Except Fault Nat :=
  match v, v.items? with
  | .options _ kind .., _ => .error (.notSized (.options kind))
  | _, some vs => .ok vs.length
  | _, none => .error (.notSized v.kind)

/-- The entries of a mapping, asked for by the name of the accessor that yields them. -/
def entriesBy (accessor : String) : Value → Except Fault Entries
  | .mapping _ entries => .ok entries
  | v => .error (.noAttribute v.kind accessor)

/-! ## Looking for an item -/

/-- Whether a run of items stands somewhere in a list. -/
def occursIn [BEq α] (run : List α) : List α → Bool
  | [] => run.isEmpty
  | c :: cs => run.isPrefixOf (c :: cs) || occursIn run cs

/-- A value as a key, or the fault that it cannot be one. -/
def asKey (v : Value) : Except Fault Value :=
  match v.obstacle? with
  | some kind => .error (.notKey kind)
  | none => .ok v

/-- Whether an octet string holds an octet or a run of octets. -/
def octetsHold (octets : List UInt8) (item : Value) : Except Fault Bool :=
  match item.integer?, item.octets? with
  | some n, _ => if 0 ≤ n ∧ n < 256 then .ok (octets.any fun o => (o.toNat : Int) == n)
    else .error .octetOutOfRange
  | none, some run => .ok (occursIn run octets)
  | none, none => .error (.notOctets item.kind)

/-- Whether a value holds an item: a key of a mapping, a part of a text, an item of a sequence. -/
def holds [Machine] (container item : Value) : Except Fault Bool :=
  match container with
  | .mapping _ entries => do
    let key ← item.asKey
    return (Entries.get? entries key).isSome
  | .bytes octets => octetsHold octets item
  | _ => match container.text?, container.items? with
    | some s, _ => match item.text? with
      | some part => .ok (occursIn part.toList s.toList)
      | none => .error (.notSubtext item.kind)
    | none, some vs => item.findAmong vs
    | none, none => .error (.notContainer container.kind)

/-! ## Picking an item -/

/-- Integers from this one on are past every index. -/
def indexLimit : Int := Nat.pow 2 63

/-- The position that an index means in a sequence of some size; a negative one counts back. -/
def position? (size : Nat) (n : Int) : Option Nat :=
  let n := if n < 0 then n + size else n
  if 0 ≤ n ∧ n < size then some n.toNat else none

/-- The position that a value means, or the fault that it is no index, with one for the range. -/
def positionOf (kind : Kind) (size : Nat) (beyond : Fault) (index : Value) : Except Fault Nat :=
  match index.integer? with
  | none => .error (.indexNotInteger kind index.kind)
  | some n =>
    if n < -indexLimit ∨ indexLimit ≤ n then .error .indexTooLarge
    else match position? size n with
      | some position => .ok position
      | none => .error beyond

/-- The item at an index. -/
def itemAt (kind : Kind) (vs : List Value) (index : Value) : Except Fault Value := do
  let position ← positionOf kind vs.length (.indexOutOfRange kind) index
  match vs[position]? with
  | some v => return v
  | none => .error (.indexOutOfRange kind)

/-- The value under a key of a mapping, or the item at an index of a sequence. -/
def item (container index : Value) : Except Fault Value :=
  match container with
  | .mapping _ entries => do
    let key ← index.asKey
    match Entries.get? entries key with
    | some v => return v
    | none => .error (.missingKey key)
  | .options _ kind .. => .error (.notSubscriptable (.options kind))
  | _ => match container.items? with
    | some vs => itemAt container.kind vs index
    | none => .error (.notSubscriptable container.kind)

/-- The container with an item put under a key of a mapping, or at an index of a list. -/
def withItem (container index item : Value) : Except Fault Value :=
  match container with
  | .mapping cell entries => do
    let key ← index.asKey
    return .mapping cell (Entries.put entries key item)
  | .list cell vs => do
    let position ← positionOf .list vs.length .assignmentOutOfRange index
    return .list cell (vs.set position item)
  | v => .error (.notAssignable v.kind)

/-- The items of a sequence after the first; a part of a mapping cannot be taken. -/
def itemsAfterFirst (v : Value) : Except Fault (List Value) :=
  match v with
  | .mapping .. => .error (.notKey .slice)
  | .options _ kind .. => .error (.notSubscriptable (.options kind))
  | _ => match v.items? with
    | some vs => .ok (vs.drop 1)
    | none => .error (.notSubscriptable v.kind)

/-! ## Joining -/

/-- The texts that values are; `position` is that of the first one in its sequence. -/
def texts (position : Nat) : List Value → Except Fault (List String)
  | [] => .ok []
  | v :: vs => match v.text? with
    | some s => (texts (position + 1) vs).map (s :: ·)
    | none => .error (.itemNotText position v.kind)

/-- The texts of a sequence with a separator between them. -/
def joinItems (separator : String) (vs : List Value) : Except Fault String :=
  (texts 0 vs).map separator.intercalate

/-- The items of a value joined by a separator. -/
def join (separator : String) (v : Value) : Except Fault String :=
  match v.items? with
  | some vs => joinItems separator vs
  | none => .error .notJoinable

theorem items_mapping (cell : Cell) (entries : Entries) :
    (Value.mapping cell entries).items = .ok entries.keys := rfl

theorem size_mapping (cell : Cell) (entries : Entries) :
    (Value.mapping cell entries).size = .ok entries.length := by
  simp [size, items?, Entries.length_keys]

theorem texts_map_str (position : Nat) (ss : List String) :
    texts position (ss.map Value.str) = .ok ss := by
  induction ss generalizing position with
  | nil => rfl
  | cons s ss ih => simp [texts, text?, ih, Except.map]

theorem joinItems_map_str (separator : String) (ss : List String) :
    joinItems separator (ss.map Value.str) = .ok (separator.intercalate ss) := by
  rw [joinItems, texts_map_str]
  rfl

end Value

end SqlAssembly
