/-!
# The weight of a text

Memory keeps every character of a text in as many octets as the widest one of
them needs: one, two or four.
-/

namespace SqlAssembly.Text

/-- Whether all characters of a text come before a given one. -/
def below (bound : Nat) (s : String) : Bool := s.toList.all fun c => c.toNat < bound

/-- The octets that memory takes for each character of a text. -/
def width (s : String) : Nat := if below 0x100 s then 1 else if below 0x10000 s then 2 else 4

/-- The octets that memory takes for a text. -/
def weight (s : String) : Nat := s.length * width s

theorem below_append (bound : Nat) (s t : String) :
    below bound (s ++ t) = (below bound s && below bound t) := by
  simp [below, String.toList_append]

example : weight "añb" = 3 ∧ weight "a€b" = 6 ∧ weight "a😀b" = 12 := by decide +kernel

end SqlAssembly.Text
