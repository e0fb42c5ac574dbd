import SqlAssembly.Text.Abbreviated
import SqlAssembly.Value.Literal

/-!
# Validation reports

A report names what was checked and lists every problem found, in the order in
which the fields are declared.  Each problem has a location, the rule that was
broken, and the value that broke it.

The text of a report starts with the number of problems.  Each problem takes
two lines: its location, and the rule with the value's literal, cut in the
middle if it is long.  The parts of a location are joined by points; a part
that has a point in it stands between back quotes.
-/

namespace SqlAssembly

/-- What a value was expected to be. -/
inductive Rule
  | mapping
  | text
  | decodableText
  | integer
  | notNegative
  | sequence
  | knownName
  | textName
  | frozen
  | booleanWord
  deriving DecidableEq, Repr, Inhabited

namespace Rule

/-- The short name of a rule. -/
def code : Rule → String
  | .mapping => "dict_type"
  | .text => "string_type"
  | .decodableText => "string_unicode"
  | .integer => "int_type"
  | .notNegative => "greater_than_equal"
  | .sequence => "list_type"
  | .knownName => "extra_forbidden"
  | .textName => "invalid_key"
  | .frozen => "frozen_instance"
  | .booleanWord => "bool_parsing"

/-- What a message says about a value that breaks the rule. -/
def sentence : Rule → String
  | .mapping => "Input should be a valid dictionary"
  | .text => "Input should be a valid string"
  | .decodableText => "Input should be a valid string, unable to parse raw data as a unicode string"
  | .integer => "Input should be a valid integer"
  | .notNegative => "Input should be greater than or equal to 0"
  | .sequence => "Input should be a valid list"
  | .knownName => "Extra inputs are not permitted"
  | .textName => "Keys should be strings"
  | .frozen => "Instance is frozen"
  | .booleanWord => "Input should be a valid boolean, unable to interpret input"

end Rule

/-- A broken rule, where it was broken and by which value. -/
structure Problem where
  /-- The way to the value, from the outside in. -/
  location : List String
  /-- The rule. -/
  rule : Rule
  /-- The value. -/
  input : Value
  deriving Inhabited, Repr

/-- Every problem found with a subject. -/
structure Report where
  /-- What was checked. -/
  subject : String
  /-- The problems, in order. -/
  problems : List Problem
  deriving Inhabited, Repr

namespace Problem

variable [Machine]

/-- A part of a location as it is written. -/
def partText (part : String) : String :=
  if part.toList.contains '.' then "\x60" ++ part ++ "\x60" else part

/-- The two lines of a problem. -/
def text (p : Problem) : String :=
  ".".intercalate (p.location.map partText) ++ "\n  " ++ p.rule.sentence
    ++ " [type=" ++ p.rule.code
    ++ ", input_value=" ++ Text.abbreviated p.input.shown
    ++ ", input_type=" ++ p.input.kind.name ++ "]"

/-- The problem seen from one level further out. -/
def within (part : String) (p : Problem) : Problem := { p with location := part :: p.location }

end Problem

namespace Report

variable [Machine]

/-- How many problems a report has, in words. -/
def heading (r : Report) : String :=
  let count := r.problems.length
  toString count ++ " validation error" ++ (if count = 1 then "" else "s") ++ " for " ++ r.subject

/-- The text of a report. -/
def message (r : Report) : String :=
  "\n".intercalate (r.heading :: r.problems.map Problem.text)

end Report

end SqlAssembly
