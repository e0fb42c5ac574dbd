import SqlAssembly.Number.Binary64

/-!
# Shortest decimal text

The decimal written for a binary number has the fewest digits that read back
as that number, and of those the one nearest to it.  A decimal reads back if
it lies in the interval of reals that round to the number; the ends of the
interval belong to it when the significand is even.

For one digit, two digits, and so on up to seventeen, `digitsOn` tests the
number's two neighbours on the grid of decimals with that many digits.  All
arithmetic is exact: a comparison of quotients is a comparison of products of
natural numbers.

How the digits are laid out is a separate decision, held in one record
(`NumberLayout`), so that two formats can share the digits.
-/

namespace SqlAssembly

/-- The value `digits * 10 ^ power`. -/
structure Decimal where
  /-- The digits, as a number. -/
  digits : Nat
  /-- The power of ten that the last digit stands for. -/
  power : Int
  deriving DecidableEq, Repr

/-- How a format lays a number out.

A number whose first digit stands for a power of ten from `leastPower` up to
but not including `powerLimit` is written with a point, any other with a power
of ten of at least two digits. -/
structure NumberLayout where
  /-- The least power written with a point. -/
  leastPower : Int
  /-- The power from which on no point is used. -/
  powerLimit : Int
  /-- What stands before a power of ten. -/
  powerMark : String
  /-- The text of what is no number. -/
  undefined : String
  /-- The text of the infinities, without a sign. -/
  infinite : String
  deriving DecidableEq, Repr

namespace Binary64

/-! ## Choosing the digits -/

/-- How many decimal digits a positive number has; none for zero. -/
def digitCount (n : Nat) : Nat :=
  if n = 0 then 0 else (Nat.toDigits 10 n).length

/-- The power of ten that the first digit of `num / den` stands for. -/
def leadingPower (num den : Nat) : Int :=
  if den ≤ num then (digitCount (num / den) : Int) - 1
  else -(digitCount ((den + num - 1) / num - 1) : Int)

/-- The multiple of `10 ^ k` that reads back as `m * 2 ^ e`, if there is one.

With `m * 2 ^ e` and `10 ^ k` brought over one denominator as `m * a` and `b`,
the neighbours are the quotient and its successor.  The interval reaches half
a unit up and half a unit down, or a quarter down where the spacing below is
half of that above. -/
def digitsOn (m : Nat) (e k : Int) : Option Nat :=
  let a := Nat.pow 2 e.toNat * Nat.pow 10 (-k).toNat
  let b := Nat.pow 2 (-e).toNat * Nat.pow 10 k.toNat
  let lower := if m = Nat.pow 2 52 ∧ -1074 < e then 4 * m - 1 else 4 * m - 2
  let upper := 4 * m + 2
  let inside (g : Nat) : Bool :=
    if m % 2 = 0 then decide (lower * a ≤ 4 * g * b) && decide (4 * g * b ≤ upper * a)
    else decide (lower * a < 4 * g * b) && decide (4 * g * b < upper * a)
  let under := m * a / b
  let belowGap := m * a - under * b
  let aboveGap := (under + 1) * b - m * a
  match inside under, inside (under + 1) with
  | true, true =>
    some (if belowGap < aboveGap then under
      else if aboveGap < belowGap then under + 1
      else under + under % 2)
  | true, false => some under
  | false, true => some (under + 1)
  | false, false => none

/-- Ten to a whole power divides out of the digits as far as it goes. -/
def trimmed : Nat → Decimal → Decimal
  | 0, d => d
  | fuel + 1, d =>
    if d.digits ≠ 0 ∧ d.digits % 10 = 0 then trimmed fuel ⟨d.digits / 10, d.power + 1⟩ else d

/-- The shortest decimal that reads back as `m * 2 ^ e`; zero is its own decimal. -/
def shortest (m : Nat) (e : Int) : Decimal :=
  if m = 0 then ⟨0, 0⟩
  else
    let (num, den) := descaled m 1 (-e)
    let lead := leadingPower num den
    let found := (List.range 17).findSome? fun (more : Nat) =>
      (digitsOn m e (lead - more)).map fun digits => Decimal.mk digits (lead - more)
    trimmed 20 (found.getD ⟨m, 0⟩)

/-! ## Laying the digits out -/

/-- So many zeros. -/
def zeros (n : Nat) : String := String.ofList (List.replicate n '0')

/-- The digits with a point, the first digit standing for ten to the power `lead`. -/
def positional (digits : String) (lead : Int) : String :=
  let size := digits.length
  if lead < 0 then "0." ++ zeros (-lead - 1).toNat ++ digits
  else if (size : Int) ≤ lead + 1 then digits ++ zeros (lead + 1 - size).toNat ++ ".0"
  else
    let whole := lead.toNat + 1
    String.ofList (digits.toList.take whole) ++ "." ++ String.ofList (digits.toList.drop whole)

/-- A power of ten with its sign and at least two digits. -/
def powerText (lead : Int) : String :=
  let size := toString lead.natAbs
  (if lead < 0 then "-" else "+") ++ zeros (2 - size.length) ++ size

/-- The digits with a point after the first, and a power of ten. -/
def scientific (mark digits : String) (lead : Int) : String :=
  let rest := String.ofList (digits.toList.drop 1)
  String.ofList (digits.toList.take 1) ++ (if rest.isEmpty then "" else "." ++ rest) ++ mark
    ++ powerText lead

/-- The text of a decimal in a layout. -/
def layOut (layout : NumberLayout) (d : Decimal) : String :=
  let digits := toString d.digits
  let lead := d.power + digits.length - 1
  if layout.leastPower ≤ lead ∧ lead < layout.powerLimit then positional digits lead
  else scientific layout.powerMark digits lead

/-- The text of a number: a minus sign where it is negative, zero included, and its decimal. -/
def text (layout : NumberLayout) : Binary64 → String
  | .undefined => layout.undefined
  | .infinite negative => (if negative then "-" else "") ++ layout.infinite
  | .finite negative m e => (if negative then "-" else "") ++ layOut layout (shortest m e)

example : shortest 1 (-1074) = ⟨5, -324⟩ := by decide +kernel
example : shortest 7205759403792794 (-56) = ⟨1, -1⟩ := by decide +kernel
example : shortest (2 ^ 52) 1 = ⟨9007199254740992, 0⟩ := by decide +kernel
example : shortest (2 ^ 52) (-52) = ⟨1, 0⟩ := by decide +kernel

end Binary64

end SqlAssembly
