/-!
# Binary floating-point numbers

A number of the 64-bit binary format, held as the integers that define it: a
sign, a significand and a power of two.  No operation here goes through the
machine's floating-point unit, so every function reduces in the logic.

Every finite number of the format is a whole multiple of `2 ^ (-1074)`.  That
multiple is its place on the line (`Binary64.place`), and comparison with
other numbers and with integers of any size is comparison of places, which is
exact.

Bounds: one undefined number, no payload; rounding is to nearest, a half going
to the even significand.
-/

namespace SqlAssembly

/-- A binary floating-point number; `finite s m e` is `m * 2 ^ e`, negated if `s`. -/
inductive Binary64
  | undefined
  | infinite (negative : Bool)
  | finite (negative : Bool) (significand : Nat) (exponent : Int)
  deriving DecidableEq, Repr, Inhabited

/-- Where a number lies on the extended line, counted in units of `2 ^ (-1074)`. -/
inductive Place
  | nowhere
  | below
  | units (n : Int)
  | above
  deriving DecidableEq, Repr

namespace Place

/-- Equality of places; an undefined number coincides with nothing, itself included. -/
def coincides : Place → Place → Bool
  | .below, .below => true
  | .units m, .units n => m == n
  | .above, .above => true
  | _, _ => false

/-- The strict order of the extended line; nothing precedes or follows an undefined number. -/
def precedes : Place → Place → Bool
  | .below, .units _ => true
  | .below, .above => true
  | .units m, .units n => decide (m < n)
  | .units _, .above => true
  | _, _ => false

/-- How many units make one. -/
def unitsPerOne : Nat := Nat.pow 2 1074

/-- The place of an integer. -/
def ofInt (n : Int) : Place := .units (n * unitsPerOne)

end Place

namespace Binary64

/-! ## Rounding a quotient -/

/-- The whole number nearest to `num / den`; a half goes to the even neighbour. -/
def roundHalfEven (num den : Nat) : Nat :=
  let quotient := num / den
  let twice := 2 * (num % den)
  if twice < den then quotient
  else if den < twice then quotient + 1
  else quotient + quotient % 2

/-- The quotient `num / den` divided by `2 ^ e`, again as a numerator and a denominator. -/
def descaled (num den : Nat) : Int → Nat × Nat
  | .ofNat e => (num, den * Nat.pow 2 e)
  | .negSucc e => (num * Nat.pow 2 (e + 1), den)

/-- The number of the format nearest to `num / den`, negated if asked.

The exponent is chosen so that the significand has 53 binary digits, but never
below `-1074`; a significand that rounds up to 54 digits moves one power up,
and a number past the largest power is infinite. -/
def ofRatio (negative : Bool) (num den : Nat) : Binary64 :=
  if num = 0 then .finite negative 0 (-1074)
  else
    let guess : Int := (num.log2 : Int) - den.log2 - 53
    let (n, d) := descaled num den guess
    let exponent := max (if n / d < Nat.pow 2 53 then guess else guess + 1) (-1074)
    let (n, d) := descaled num den exponent
    let significand := roundHalfEven n d
    let (significand, exponent) :=
      if significand = Nat.pow 2 53 then (Nat.pow 2 52, exponent + 1) else (significand, exponent)
    if 971 < exponent then .infinite negative else .finite negative significand exponent

/-- The number nearest to `digits * 10 ^ power`. -/
def ofDecimal (negative : Bool) (digits : Nat) : Int → Binary64
  | .ofNat p => ofRatio negative (digits * Nat.pow 10 p) 1
  | .negSucc p => ofRatio negative digits (Nat.pow 10 (p + 1))

/-! ## Reading -/

/-- A sign, if there is one, and the rest. -/
def readSign : List Char → Bool × List Char
  | '-' :: rest => (true, rest)
  | '+' :: rest => (false, rest)
  | rest => (false, rest)

/-- The number that a run of decimal digits writes. -/
def ofDigits (digits : List Char) : Nat :=
  digits.foldl (fun n c => 10 * n + (c.toNat - 48)) 0

/-- The power of ten after the digits: nothing, or `e` and a signed number. -/
def readPower : List Char → Option Int
  | [] => some 0
  | 'e' :: rest =>
    let (negative, digits) := readSign rest
    if digits.isEmpty || !digits.all Char.isDigit then none
    else some (if negative then -(ofDigits digits : Int) else ofDigits digits)
  | _ => none

/-- The number that a decimal text writes: a sign, digits with a point, and a power of ten. -/
def read? (text : String) : Option Binary64 :=
  let (negative, rest) := readSign text.toList
  if rest = "nan".toList then some .undefined
  else if rest = "inf".toList then some (.infinite negative)
  else
    let whole := rest.takeWhile Char.isDigit
    let rest := rest.dropWhile Char.isDigit
    let (fraction, rest) := match rest with
      | '.' :: more => (more.takeWhile Char.isDigit, more.dropWhile Char.isDigit)
      | _ => ([], rest)
    if whole.isEmpty && fraction.isEmpty then none
    else (readPower rest).map fun power =>
      ofDecimal negative (ofDigits (whole ++ fraction)) (power - fraction.length)

/-! ## Places -/

/-- Where the number lies. -/
def place : Binary64 → Place
  | .undefined => .nowhere
  | .infinite true => .below
  | .infinite false => .above
  | .finite negative m e =>
    let n : Int := (m * Nat.pow 2 (e + 1074).toNat : Nat)
    .units (if negative then -n else n)

/-- Zero of either sign. -/
def isZero : Binary64 → Bool
  | .finite _ 0 _ => true
  | _ => false

example : read? "1.5" = some (.finite false (3 * 2 ^ 51) (-52)) := by decide +kernel
example : read? "-0.0" = some (.finite true 0 (-1074)) := by decide +kernel
example : read? "5e-324" = some (.finite false 1 (-1074)) := by decide +kernel
example : read? "1e+400" = some (.infinite false) := by decide +kernel
example : read? "1e" = none := by decide +kernel
example : (place (.finite false 1 0)).coincides (.ofInt 1) = true := by decide +kernel
example : (place .undefined).coincides (place .undefined) = false := by decide

end Binary64

end SqlAssembly
