/-!
# The environment

The variables of the process, in the order in which they were first set, and
the entries of the settings file, in the order of its lines.  Names are
compared without regard to the case of the seven-bit letters, which is all the
case that the names of settings have; of two variables whose names differ only
in case the later one counts.

A variable has precedence over an entry.  An entry without a value is as good
as none.
-/

namespace SqlAssembly

/-- Named texts, in the order in which the names first came. -/
abbrev Bindings (α : Type) := List (String × α)

namespace Bindings

variable {α : Type}

/-- The text under a name, spelled exactly so. -/
def get? (bindings : Bindings α) (name : String) : Option α :=
  (bindings.find? fun b => b.1 == name).map Prod.snd

/-- A text put under a name; an old name keeps its place. -/
def put : Bindings α → String → α → Bindings α
  | [], name, a => [(name, a)]
  | (old, b) :: rest, name, a =>
    if old == name then (old, a) :: rest else (old, b) :: put rest name a

/-- The bindings without a name. -/
def erase (bindings : Bindings α) (name : String) : Bindings α :=
  bindings.filter fun b => b.1 != name

/-- A name in lower case, as far as seven-bit letters have one. -/
def folded (name : String) : String := name.map Char.toLower

/-- The last text under a name, whatever its case. -/
def last? (bindings : Bindings α) (name : String) : Option α :=
  (bindings.reverse.find? fun b => folded b.1 == folded name).map Prod.snd

theorem get?_put_self (bindings : Bindings α) (name : String) (a : α) :
    (bindings.put name a).get? name = some a := by
  induction bindings with
  | nil => simp [put, get?]
  | cons b rest ih =>
    obtain ⟨old, b⟩ := b
    by_cases h : old = name
    · simp [put, get?, h]
    · have : (old == name) = false := beq_false_of_ne h
      simp only [get?] at ih
      simp [put, get?, this, ih]

theorem get?_put_of_ne (bindings : Bindings α) {name other : String} (a : α) (h : name ≠ other) :
    (bindings.put name a).get? other = bindings.get? other := by
  induction bindings with
  | nil => simp [put, get?, h]
  | cons b rest ih =>
    obtain ⟨old, b⟩ := b
    simp only [get?] at ih
    by_cases same : old = name
    · subst same
      simp [put, get?, h]
    · have : (old == name) = false := beq_false_of_ne same
      simp only [put, this, Bool.false_eq_true, if_false, get?, List.find?_cons]
      split
      · rfl
      · exact ih

end Bindings

/-- What settings are read from: the variables of the process and the entries of a file. -/
structure Environment where
  /-- The variables of the process. -/
  process : Bindings String
  /-- The entries of the settings file; an entry may have no value. -/
  file : Bindings (Option String)
  deriving DecidableEq, Repr, Inhabited

namespace Environment

/-- No variable and no file. -/
def empty : Environment := ⟨[], []⟩

/-- The text that a name stands for: that of the variable, else that of the entry. -/
def lookup? (environment : Environment) (name : String) : Option String :=
  match environment.process.last? name with
  | some text => some text
  | none => (environment.file.last? name).join

/-- The environment with a variable set. -/
def set (environment : Environment) (name text : String) : Environment :=
  { environment with process := environment.process.put name text }

/-- The environment without a variable. -/
def unset (environment : Environment) (name : String) : Environment :=
  { environment with process := environment.process.erase name }

theorem lookup?_of_variable {environment : Environment} {name text : String}
    (h : environment.process.last? name = some text) :
    environment.lookup? name = some text := by
  rw [lookup?, h]

theorem lookup?_of_no_variable {environment : Environment} {name : String}
    (h : environment.process.last? name = none) :
    environment.lookup? name = (environment.file.last? name).join := by
  rw [lookup?, h]

end Environment

end SqlAssembly
