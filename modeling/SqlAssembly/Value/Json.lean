import SqlAssembly.Fault

/-!
# Journal text

The form that values have in journal lines: JSON in seven-bit characters, with
a space after each comma and colon.  Characters past the tilde are written by
their sixteen-bit units.  An undefined or infinite number has a name there.

A value that has no form of its own, an octet string or an options record, is
written as the text of its literal.  A key must be a text, a number, a truth
value or nothing; another one is a fault, and so is a collection that lies
inside itself, one of too many levels and an integer of too many digits.
-/

namespace SqlAssembly

namespace Text

/-- One sixteen-bit unit, escaped. -/
def unitEscape (n : Nat) : List Char := '\\' :: 'u' :: hexadecimal 4 n

/-- A character of a journal text. -/
def jsonChar (c : Char) : List Char :=
  if c = '"' ∨ c = '\\' then ['\\', c]
  else if c = '\n' then ['\\', 'n']
  else if c = '\r' then ['\\', 'r']
  else if c = '\t' then ['\\', 't']
  else if c = '\x0c' then ['\\', 'f']
  else if c = '\x08' then ['\\', 'b']
  else if 0x20 ≤ c.toNat ∧ c.toNat < 0x7f then [c]
  else if c.toNat < 0x10000 then unitEscape c.toNat
  else
    let rest := c.toNat - 0x10000
    unitEscape (0xd800 + rest / 0x400) ++ unitEscape (0xdc00 + rest % 0x400)

/-- A text in a journal line. -/
def json (s : String) : String := String.ofList ('"' :: s.toList.flatMap jsonChar ++ ['"'])

example : json "é😀\"" = "\"\\u00e9\\ud83d\\ude00\\\"\"" := by decide +kernel

end Text

namespace Value

/-- Numbers in journal lines: as in literals, but undefined and infinite ones have other names. -/
def jsonNumber : NumberLayout := { literalNumber with undefined := "NaN", infinite := "Infinity" }

/-- A truth value in journal lines. -/
def jsonBool (b : Bool) : String := if b then "true" else "false"

variable [Machine]

/-- A key in a journal line. -/
def jsonKey : Value → Except Fault String
  | .null => .ok (Text.json "null")
  | .bool b => .ok (Text.json (jsonBool b))
  | .int n => unlessLimited (digitLimit? n) (Text.json (toString n))
  | .float _ x => .ok (Text.json (x.text jsonNumber))
  | v => match v.text? with
    | some s => .ok (Text.json s)
    | none => .error (.unwritableKey v.kind)

/-- The forms of a sequence between brackets. -/
def bracketed (texts : List String) : String := "[" ++ ", ".intercalate texts ++ "]"

/-- The forms of entries between braces. -/
def braced (texts : List String) : String := "\x7b" ++ ", ".intercalate texts ++ "\x7d"

/-- The form of what a collection holds, given how many levels there is room for, unless the
collection lies inside itself. -/
def unlessWithin (around : List Nat) (room : Nat) (cell : Cell)
    (form : Nat → Except Fault String) : Except Fault String :=
  match room with
  | 0 => .error .encodingTooDeep
  | room + 1 => if isWithin around cell then .error .circular else form room

mutual

/-- A value in a journal line, given the cells of the collections around it and how many levels
there is room for. -/
def jsonWithin (around : List Nat) (room : Nat) : Value → Except Fault String
  | .null => .ok "null"
  | .bool b => .ok (jsonBool b)
  | .int n => unlessLimited (digitLimit? n) (toString n)
  | .float _ x => .ok (x.text jsonNumber)
  | .str s => .ok (Text.json s)
  | .direction d => .ok (Text.json d.token)
  | .list cell items => unlessWithin around room cell fun room =>
    (jsonItems (inside around cell) room items).map bracketed
  | .tuple cell items => unlessWithin around room cell fun room =>
    (jsonItems (inside around cell) room items).map bracketed
  | .prepared sql cell params => unlessWithin around room none fun room =>
    (unlessWithin around room cell fun room =>
      (jsonItems (inside around cell) room params).map bracketed).map fun text =>
        bracketed [Text.json sql, text]
  | .mapping cell entries => unlessWithin around room cell fun room =>
    (jsonEntries (inside around cell) room entries).map braced
  | .bytes octets => .ok (Text.json (Text.quotedOctets octets))
  | .options cell kind given sort limit offset projections =>
    let v := Value.options cell kind given sort limit offset projections
    unlessLimited (v.limitWithin? [] room) (Text.json v.literal)

/-- The forms of a sequence. -/
def jsonItems (around : List Nat) (room : Nat) : List Value → Except Fault (List String)
  | [] => .ok []
  | v :: vs => do
    let text ← v.jsonWithin around room
    let texts ← jsonItems around room vs
    return text :: texts

/-- The forms of a mapping's entries: key, colon, value. -/
def jsonEntries (around : List Nat) (room : Nat) :
    List (Value × Value) → Except Fault (List String)
  | [] => .ok []
  | (key, value) :: rest => do
    let name ← key.jsonKey
    let text ← value.jsonWithin around room
    let texts ← jsonEntries around room rest
    return (name ++ ": " ++ text) :: texts

end

/-- A value in a journal line. -/
def json (v : Value) : Except Fault String := v.jsonWithin [] Machine.depth

theorem json_null : Value.null.json = .ok "null" := by
  simp [json, jsonWithin]

theorem json_int (n : Int) : (Value.int n).json = unlessLimited (digitLimit? n) (toString n) := by
  simp [json, jsonWithin]

end Value

end SqlAssembly
