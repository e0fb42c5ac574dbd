import SqlAssembly.Fault

/-!
# Severities and thresholds

An event has one of five severities, which are ranked by numbers ten apart.  A
threshold is any integer, and an event passes it if its rank is not below.  A
threshold may also be given as a truth value, which ranks as zero or one and is
shown as it was given.

Thresholds have names.  A name given by a caller must be one of them, in upper
case.  A name from the settings that is unknown stands for the threshold of
information.  Two names stand for what is no threshold: that of the line format
for the format, and that of the line styles for all of them.
-/

namespace SqlAssembly

/-- How grave an event is. -/
inductive Severity
  | debug
  | info
  | warning
  | error
  | critical
  deriving DecidableEq, Repr, Inhabited

namespace Severity

/-- The rank of a severity. -/
def rank : Severity → Int
  | .debug => 10
  | .info => 20
  | .warning => 30
  | .error => 40
  | .critical => 50

/-- The word for a severity in a journal line. -/
def word : Severity → String
  | .debug => "debug"
  | .info => "info"
  | .warning => "warning"
  | .error => "error"
  | .critical => "critical"

/-- Every severity, in order. -/
def all : List Severity := [.debug, .info, .warning, .error, .critical]

/-- The severity with a given word. -/
def ofWord? (word : String) : Option Severity := all.find? fun s => s.word == word

end Severity

/-- A threshold for events, shown as it was given. -/
inductive Threshold
  | rank (n : Int)
  | flag (b : Bool)
  deriving DecidableEq, Repr, Inhabited

namespace Threshold

/-- The rank that a threshold stands at. -/
def toInt : Threshold → Int
  | .rank n => n
  | .flag b => b.toNat

/-- The threshold as a value. -/
def toValue : Threshold → Value
  | .rank n => .int n
  | .flag b => .bool b

/-- Whether an event of a severity passes. -/
def passes (t : Threshold) (s : Severity) : Bool := decide (t.toInt ≤ s.rank)

/-- The named thresholds. -/
def names : List (String × Int) :=
  [("CRITICAL", 50), ("FATAL", 50), ("ERROR", 40), ("WARN", 30), ("WARNING", 30), ("INFO", 20),
    ("DEBUG", 10), ("NOTSET", 0)]

/-- The rank of a named threshold. -/
def ofName? (name : String) : Option Int := names.lookup name

/-- The name of the line format, which stands among those of the thresholds, and the format. -/
def lineFormat : String × String := ("BASIC_FORMAT", "%(levelname)s:%(name)s:%(message)s")

/-- The name of the line styles, and the text that shows them with their formatters. -/
def lineStyles : String × String :=
  ("_STYLES",
    "\x7b'%': (<class 'logging.PercentStyle'>, '%(levelname)s:%(name)s:%(message)s'), "
    ++ "'\x7b': (<class 'logging.StrFormatStyle'>, '\x7blevelname\x7d:\x7bname\x7d:\x7bmessage\x7d'), "
    ++ "'$': (<class 'logging.StringTemplateStyle'>, "
    ++ "'$\x7blevelname\x7d:$\x7bname\x7d:$\x7bmessage\x7d')\x7d")

/-- What a name from the settings may stand for. -/
inductive Named
  /-- A value: a rank, or the line format. -/
  | value (v : Value)
  /-- The line styles, which are no value. -/
  | styles
  deriving Inhabited, Repr

/-- What a name from the settings stands for. -/
def named (name : String) : Named :=
  match ofName? name with
  | some n => .value (.int n)
  | none =>
    if name = lineFormat.1 then .value (.str lineFormat.2)
    else if name = lineStyles.1 then .styles
    else .value (.int Severity.info.rank)

/-- What a name stands for, as a value; the line styles are refused as a threshold would be. -/
def Named.toValue : Named → Except Fault Value
  | .value v => .ok v
  | .styles => .error (.notThreshold lineStyles.2)

variable [Machine]

/-- The threshold that a value is: an integer, a truth value or a name. -/
def ofValue : Value → Except Fault Threshold
  | .int n => .ok (.rank n)
  | .bool b => .ok (.flag b)
  | .str name => match ofName? name with
    | some n => .ok (.rank n)
    | none => .error (.unknownThreshold (.str name))
  | v => v.written >>= fun _ => .error (.notThreshold v.literal)

/-- The threshold that a name from the settings stands for. -/
def ofNamed (named : Named) : Except Fault Threshold := named.toValue >>= ofValue

end Threshold

end SqlAssembly
