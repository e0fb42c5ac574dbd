/-!
# The shape of options records

An options record says how the rows that a statement touches are ordered and
counted: `sort`, `limit` and `offset`.  The record of a find statement also
names the columns to return, its `projections`.  A record knows which of its
fields it was given; a field that was not given is empty.

This module holds the names: the two sort directions, the two kinds of record
and the fields of each, in the order in which they are read and written.
-/

namespace SqlAssembly

/-- A direction of sorting. -/
inductive Direction
  | asc
  | desc
  deriving DecidableEq, Repr, Inhabited

/-- The word that stands for a direction in a statement. -/
def Direction.token : Direction → String
  | .asc => "ASC"
  | .desc => "DESC"

/-- Every direction. -/
def Direction.all : List Direction := [.asc, .desc]

/-- The direction with a given token. -/
def Direction.ofToken? (token : String) : Option Direction :=
  Direction.all.find? fun d => d.token == token

theorem Direction.ofToken?_token (d : Direction) : Direction.ofToken? d.token = some d := by
  cases d <;> decide

theorem Direction.ofToken?_eq_some_iff {token : String} {d : Direction} :
    Direction.ofToken? token = some d ↔ token = d.token := by
  constructor
  · intro h
    have := List.find?_some h
    exact (beq_iff_eq.1 this).symm
  · rintro rfl
    exact d.ofToken?_token

/-- A field of an options record. -/
inductive OptionField
  | sort
  | limit
  | offset
  | projections
  deriving DecidableEq, Repr, Inhabited

/-- The name of a field. -/
def OptionField.name : OptionField → String
  | .sort => "sort"
  | .limit => "limit"
  | .offset => "offset"
  | .projections => "projections"

/-- The kind of an options record; `find` adds the projections to `orderLimit`. -/
inductive OptionsKind
  | orderLimit
  | find
  deriving DecidableEq, Repr, Inhabited

namespace OptionsKind

/-- The name of a kind. -/
def name : OptionsKind → String
  | .orderLimit => "OrderLimitOptions"
  | .find => "FindOptions"

/-- The fields of a kind, in order. -/
def fields : OptionsKind → List OptionField
  | .orderLimit => [.sort, .limit, .offset]
  | .find => [.sort, .limit, .offset, .projections]

/-- The field of a kind with a given name. -/
def field? (kind : OptionsKind) (name : String) : Option OptionField :=
  kind.fields.find? fun field => field.name == name

theorem fields_nodup (kind : OptionsKind) : kind.fields.Nodup := by
  cases kind <;> decide

end OptionsKind

end SqlAssembly
