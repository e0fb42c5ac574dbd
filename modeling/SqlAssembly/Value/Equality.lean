import SqlAssembly.Value.Basic

/-!
# Equality and lookup

Numbers are equal when they lie at one place, whatever their kinds, so that
true, one and one point zero are one key of a mapping.  A sort direction is
equal to its token.  Otherwise values of different kinds differ: an octet
string never equals a text, and a list never equals a tuple.  A prepared
statement equals the tuple of its text and its parameters.  Options records of
one kind are equal when their fields are, whichever of them were given.

Mappings are equal when they hold equal values under equal keys, in any order.

An item of a sequence, or a key or a value of a mapping, is compared as a part:
a part is the same as another one if it lives in the same cell, and only
otherwise is it asked whether the two are equal.  So an undefined number, which
no number is equal to, is found in a list that holds it.

Lists and mappings cannot be keys, nor can anything that holds one.
-/

namespace SqlAssembly

namespace Value

/-- Whether two values live in one cell. -/
def inOneCell (v w : Value) : Bool := v.cell?.isSome && v.cell? == w.cell?

mutual

/-- Equality of values. -/
def equals : Value → Value → Bool
  | .null, w => w.kind == .null
  | .bool b, w => w.place?.any (Place.ofInt b.toNat).coincides
  | .int n, w => w.place?.any (Place.ofInt n).coincides
  | .float _ x, w => w.place?.any x.place.coincides
  | .str s, w => w.text? == some s
  | .direction d, w => w.text? == some d.token
  | .bytes octets, w => w.octets? == some octets
  | .list _ items, w => match w with
    | .list _ others => equalItems items others
    | _ => false
  | .tuple _ items, w => w.tupleItems?.any fun others => equalItems items others
  | .mapping _ entries, w => match w with
    | .mapping _ others => entries.length == others.length && agreeWith others entries
    | _ => false
  | .options _ kind _ sort limit offset projections, w => match w with
    | .options _ kind' _ sort' limit' offset' projections' =>
      kind == kind' && (inOneCell sort sort' || sort.equals sort')
        && limit.equals limit' && offset.equals offset'
        && (inOneCell projections projections' || projections.equals projections')
    | _ => false
  | .prepared sql _ params, w => match w.tupleItems? with
    | some [text, rest] =>
      text.text? == some sql && rest.tupleItems?.any fun others => equalItems params others
    | _ => false

/-- Equality of sequences, part by part. -/
def equalItems : List Value → List Value → Bool
  | [], [] => true
  | v :: vs, w :: ws => (inOneCell v w || v.equals w) && equalItems vs ws
  | _, _ => false

/-- Whether every entry is found with the same value among the others. -/
def agreeWith (others : Entries) : Entries → Bool
  | [] => true
  | (key, value) :: rest =>
    (others.find? fun entry => inOneCell key entry.1 || key.equals entry.1).any
        (fun entry => inOneCell value entry.2 || value.equals entry.2)
      && agreeWith others rest

end

/-- Whether a part is the same as another one: it lives in the same cell or is equal. -/
def same (v w : Value) : Bool := inOneCell v w || v.equals w

/-! ## Keys -/

mutual

/-- The kind of the first part that keeps a value from being a key, if there is one. -/
def obstacle? : Value → Option Kind
  | .list _ _ => some .list
  | .mapping _ _ => some .mapping
  | .tuple _ items => firstObstacle items
  | .prepared _ _ params => firstObstacle params
  | .options _ _ _ sort limit offset projections =>
    sort.obstacle? <|> limit.obstacle? <|> offset.obstacle? <|> projections.obstacle?
  | _ => none

/-- The first such part of a sequence. -/
def firstObstacle : List Value → Option Kind
  | [] => none
  | v :: vs => v.obstacle? <|> firstObstacle vs

end

/-- Whether a value is among others. -/
def isAmong (v : Value) (others : List Value) : Bool := others.any v.same

/-- Whether two collections hold the same values, in any order and number. -/
def sameMembers (vs ws : List Value) : Bool :=
  vs.all (·.isAmong ws) && ws.all (·.isAmong vs)

theorem equals_str (s t : String) : (Value.str s).equals (.str t) = (t == s) := by
  simp [equals, text?]

/-- Texts have no cells, so that two of them are the same exactly when they are equal. -/
theorem same_str (s t : String) : (Value.str s).same (.str t) = (t == s) := by
  simp [same, inOneCell, cell?, equals_str]

end Value

/-! ## Mappings -/

namespace Entries

/-- The keys, in order. -/
def keys (entries : Entries) : List Value := entries.map Prod.fst

/-- The values, in the order of their keys. -/
def values (entries : Entries) : List Value := entries.map Prod.snd

/-- The value under a key. -/
def get? (entries : Entries) (key : Value) : Option Value :=
  (entries.find? fun entry => entry.1.same key).map Prod.snd

/-- The mapping with a value put under a key: an old key keeps its place and its spelling. -/
def put : Entries → Value → Value → Entries
  | [], key, value => [(key, value)]
  | (old, current) :: rest, key, value =>
    if old.same key then (old, value) :: rest else (old, current) :: put rest key value

/-- The mapping that entries put one after the other leave. -/
def ofList (pairs : List (Value × Value)) : Entries :=
  pairs.foldl (fun entries pair => entries.put pair.1 pair.2) []

/-- The value under a key that is a text. -/
def getText? (entries : Entries) (key : String) : Option Value := entries.get? (.str key)

@[simp] theorem keys_nil : keys [] = [] := rfl

@[simp] theorem keys_cons (key value : Value) (rest : Entries) :
    keys ((key, value) :: rest) = key :: keys rest := rfl

@[simp] theorem values_cons (key value : Value) (rest : Entries) :
    values ((key, value) :: rest) = value :: values rest := rfl

theorem length_keys (entries : Entries) : entries.keys.length = entries.length := by
  simp [keys]

theorem length_values (entries : Entries) : entries.values.length = entries.length := by
  simp [values]

end Entries

end SqlAssembly
