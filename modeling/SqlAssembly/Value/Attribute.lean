import SqlAssembly.Fault

/-!
# Attributes

What a value gives away under a name: the fields of a record, the parts of a
number, the token, the name and the place of a sort direction, the text and the
parameters of a prepared statement.

Most attributes cannot be replaced, and which fault says so depends on what the
name stands for.  The fields of a record are frozen, parts of numbers are not
writable, and the operations of a kind are read-only.  A record takes notes
under names that start with a low line, a sort direction under almost any name.
-/

namespace SqlAssembly

namespace Value

/-! ## What is there -/

/-- How options records are made, as they say themselves. -/
def recordPolicy : Value :=
  ofEntries [(.str "frozen", .bool true), (.str "extra", .str "forbid")]

/-- The attributes of an options record, its fields apart. -/
def recordAttribute? (name : String) : Option Value :=
  if name = "model_config" then some recordPolicy
  else if name = "model_extra" then some .null
  else none

/-- The names of the parts of a prepared statement. -/
def preparedParts : List String := ["sql", "params"]

/-- The attributes of a prepared statement. -/
def preparedAttribute? (sql : String) (cell : Cell) (params : List Value) (name : String) :
    Option Value :=
  if name = "sql" then some (.str sql)
  else if name = "params" then some (.tuple cell params)
  else if name = "_fields" ∨ name = "__match_args__" then
    some (ofParts (preparedParts.map Value.str))
  else if name = "_field_defaults" then some (ofEntries [])
  else none

/-- The parts of an integer, which is a fraction and a complex number too. -/
def integerAttribute? (n : Int) (name : String) : Option Value :=
  if name = "real" ∨ name = "numerator" then some (.int n)
  else if name = "imag" then some (.int 0)
  else if name = "denominator" then some (.int 1)
  else none

/-- The parts of a number with a point, which is a complex number too. -/
def numberAttribute? (v : Value) (name : String) : Option Value :=
  if name = "real" then some v
  else if name = "imag" then some (ofNumber (.finite false 0 0))
  else none

/-- The attributes of a sort direction; each direction knows all of them. -/
def directionAttribute? (d : Direction) (name : String) : Option Value :=
  if name = "value" ∨ name = "_value_" ∨ name = "name" ∨ name = "_name_" then some (.str d.token)
  else if name = "_sort_order_" then some (.int (Direction.all.idxOf d))
  else (Direction.ofToken? name).map Value.direction

/-- What a value gives away under a name. -/
def attribute? (v : Value) (name : String) : Option Value :=
  match v with
  | .options _ kind _ sort limit offset projections => match kind.field? name with
    | some f => some (field sort limit offset projections f)
    | none => recordAttribute? name
  | .prepared sql cell params => preparedAttribute? sql cell params name
  | .bool b => integerAttribute? b.toNat name
  | .int n => integerAttribute? n name
  | .float cell x => numberAttribute? (.float cell x) name
  | .direction d => directionAttribute? d name
  | _ => none

/-- What a value gives away under a name, or the fault that there is nothing. -/
def getAttribute (v : Value) (name : String) : Except Fault Value :=
  match v.attribute? name with
  | some found => .ok found
  | none => .error (.noAttribute v.kind name)

/-! ## What can be replaced -/

/-- Words with spaces between them. -/
def words (text : String) : List String := text.splitOn " "

/-- The operations that texts and octet strings have in common. -/
def textOperations : List String := words <|
  "capitalize center count endswith expandtabs find index isalnum isalpha isascii isdigit islower "
  ++ "isspace istitle isupper join ljust lower lstrip maketrans partition removeprefix "
  ++ "removesuffix replace rfind rindex rjust rpartition rsplit rstrip split splitlines "
  ++ "startswith strip swapcase title translate upper zfill"

/-- The names of the operations of a kind. -/
def operationNames : Kind → List String
  | .bool | .int => words "as_integer_ratio bit_count bit_length conjugate from_bytes to_bytes"
  | .float => words "as_integer_ratio conjugate fromhex hex is_integer"
  | .str => textOperations ++ words
    "casefold encode format format_map isdecimal isidentifier isnumeric isprintable"
  | .bytes => textOperations ++ words "decode fromhex hex"
  | .list => words "append clear copy count extend index insert pop remove reverse sort"
  | .tuple => words "count index"
  | .mapping => words "clear copy fromkeys get items keys pop popitem setdefault update values"
  | .prepared => words
    "count index _asdict _field_defaults _fields _make _replace __match_args__"
  | _ => []

/-- The kind whose parts a number has: truth values have those of integers. -/
def numberKind : Kind → Kind
  | .bool => .int
  | kind => kind

/-- Whether a note can be made on a value under a name. -/
def takesNote (v : Value) (name : String) : Bool :=
  match v with
  | .options .. => name.toList.head? == some '_'
  | .direction _ => name != "value" && name != "name"
  | _ => false

/-- Why an attribute that is no note cannot be replaced. -/
def replacementFault (target : Value) (name : String) (v : Value) : Fault :=
  match target.kind with
  | .options kind => .invalid ⟨kind.name, [⟨[name], .frozen, v⟩]⟩
  | .direction => .memberAttribute name
  | kind =>
    if (operationNames kind).contains name then .readOnlyAttribute kind name
    else if (target.attribute? name).isNone then .noAttribute kind name
    else if kind = .prepared then .fixedAttribute
    else .unwritableAttribute (numberKind kind) name

end Value

end SqlAssembly
