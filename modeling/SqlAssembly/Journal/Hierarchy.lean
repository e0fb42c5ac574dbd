/-!
# The tree of loggers

The names of loggers are parts with points between them, and a logger stands
below the one whose name is a beginning of its own up to a point.  Every logger
stands below the root, which is also what the empty name means.

A point at the very start cuts nothing off.  Of two points next to each other
only the second cuts.

Only loggers that are known stand in the tree; a logger gets known when it is
first asked for.  The one above a logger is the nearest one known, and what lies
further up is what lies above that one.  A logger that gets known takes its
place between those below and those above it, unless its name is a beginning of
the root's: it is then taken for the root, and those known before stay where
they are.
-/

namespace SqlAssembly.Logger

/-- The name of the root. -/
def rootName : String := "root"

/-- The name under which a logger is known. -/
def canonicalName (name : String) : String := if name.isEmpty then rootName else name

/-- The names cut off before each point, given the name from its end; the longest first. -/
def cutsReversed : Nat → List Char → List (List Char)
  | 0, _ => []
  | fuel + 1, cs => match cs.dropWhile (· != '.') with
    | _ :: before =>
      if before.isEmpty then [] else before.reverse :: cutsReversed fuel (before.drop 1)
    | [] => []

/-- The names that a logger may stand below, the nearest first. -/
def cuts (name : String) : List String :=
  (cutsReversed name.length name.toList.reverse).map String.ofList

/-- Whether a logger got known before another one, given those that are known from the first on. -/
def isKnownBefore (known : List String) (name other : String) : Bool :=
  (known.takeWhile (· != other)).contains name

/-- Whether a logger is taken for the root by one that was known before it. -/
def isTakenForRoot (known : List String) (above name : String) : Bool :=
  above.toList.isPrefixOf rootName.toList && isKnownBefore known name above

/-- The logger above another one, given those that are known from the first on. -/
def parent (known : List String) (name : String) : String :=
  match (cuts name).find? known.contains with
  | some above => if isTakenForRoot known above name then rootName else above
  | none => rootName

/-- A logger and those above it, at most so many of them before the root. -/
def chainWithin (known : List String) : Nat → String → List String
  | 0, _ => [rootName]
  | bound + 1, name =>
    if name = rootName then [rootName] else name :: chainWithin known bound (parent known name)

/-- A logger and those above it, the root last; every name is shorter than the one before. -/
def chain (known : List String) (name : String) : List String :=
  chainWithin known (name.length + 1) (canonicalName name)

example : chain ["a", "a.b"] "a.b.c" = ["a.b.c", "a.b", "a", "root"] := by decide +kernel
example : chain ["a"] "a.b.c" = ["a.b.c", "a", "root"] := by decide +kernel
example : chain ["a"] "a..b" = ["a..b", "root"] := by decide +kernel
example : chain ["a", "a."] "a..b" = ["a..b", "a.", "a", "root"] := by decide +kernel
example : chain ["r", "r.a"] "r.a" = ["r.a", "r", "root"] := by decide +kernel
example : chain ["r.a", "r"] "r.a" = ["r.a", "root"] := by decide +kernel
example : chain [] ".a" = [".a", "root"] := by decide +kernel
example : chain [] "" = ["root"] := by decide +kernel

end SqlAssembly.Logger
