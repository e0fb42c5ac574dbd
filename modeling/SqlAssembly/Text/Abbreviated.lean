/-!
# Abbreviated text

A text that a message quotes is cut in the middle when its UTF-8 form has more
than fifty octets: as many characters as fit twenty-five octets from its start,
three dots, and as many as fit twenty-four octets from its end.  A character is
never split, so a cut that would fall inside one keeps less.
-/

namespace SqlAssembly.Text

/-- The octets that characters take. -/
def octetSize : List Char → Nat
  | [] => 0
  | c :: cs => c.utf8Size + octetSize cs

/-- The longest beginning that fits the given number of octets. -/
def fitting : Nat → List Char → List Char
  | _, [] => []
  | room, c :: cs => if c.utf8Size ≤ room then c :: fitting (room - c.utf8Size) cs else []

/-- A text, cut in the middle if it is long. -/
def abbreviated (s : String) : String :=
  let cs := s.toList
  if octetSize cs ≤ 50 then s
  else String.ofList (fitting 25 cs ++ ['.', '.', '.'] ++ (fitting 24 cs.reverse).reverse)

end SqlAssembly.Text
