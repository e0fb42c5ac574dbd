/-!
# Machines

What the machine below the library sets bounds to.  Values are written and
compared only so many levels deep, an integer is written only if it has so many
digits at most, and memory holds only what is small enough.

Nothing in the library chooses these bounds or asks for them.  They are a
parameter of everything that writes a value or fills memory, and what is shown
of the library holds on every machine.
-/

namespace SqlAssembly

/-- The bounds that a machine sets. -/
class Machine where
  /-- How many collections inside each other are written or compared. -/
  depth : Nat
  /-- A collection of nothing but texts is written. -/
  depth_pos : 0 < depth
  /-- How many digits an integer that is written has at most. -/
  digits : Nat
  /-- The size in octets from which memory holds nothing. -/
  memory : Nat

/-- A machine as it is where nobody has changed its bounds. -/
instance Machine.usual : Machine where
  depth := 1000
  depth_pos := by decide
  digits := 4300
  memory := Nat.pow 2 40

end SqlAssembly
