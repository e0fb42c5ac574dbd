import SqlAssembly.Fault

/-!
# Values without a text

Every machine has values that it does not write.  Tuples inside each other are
written exactly if they are fewer than the levels that the machine goes down
(`Value.limit?_tower`), and no integer is written that has more digits than it
allows (`Value.limit?_of_le`).
-/

namespace SqlAssembly.Value

/-- The empty tuple inside so many other tuples. -/
def tower : Nat → Value
  | 0 => .tuple none []
  | n + 1 => .tuple none [tower n]

variable [Machine]

theorem limitWithin?_tower (around : List Nat) (n room : Nat) :
    (tower n).limitWithin? around room = if n < room then none else some .depth := by
  induction n generalizing around room with
  | zero => cases room <;> simp [tower, limitWithin?, deeper, isWithin, limitAmong?]
  | succ n ih => cases room <;> simp [tower, limitWithin?, deeper, isWithin, limitAmong?, ih]

theorem limit?_tower (n : Nat) :
    (tower n).limit? = if n < Machine.depth then none else some .depth :=
  limitWithin?_tower [] n Machine.depth

theorem limit?_of_le {n : Int} (long : Nat.pow 10 Machine.digits ≤ n.natAbs) :
    (Value.int n).limit? = some .digits := by
  have more_digits : ¬ (Nat.toDigits 10 n.natAbs).length ≤ Machine.digits := by
    rcases Nat.eq_zero_or_pos Machine.digits with none_allowed | some_allowed
    · rw [none_allowed, Nat.not_le]
      exact Nat.length_toDigits_pos
    · rw [Nat.length_toDigits_le_iff (by decide) some_allowed]
      exact Nat.not_lt.2 long
  rw [limit?_int, digitLimit?, if_neg more_digits]

/-- A value of more levels than are written. -/
def tall : Value := tower Machine.depth

/-- The least number of more digits than are written. -/
def long : Nat := Nat.pow 10 Machine.digits

theorem limit?_tall : tall.limit? = some .depth := by
  rw [tall, limit?_tower, if_neg (Nat.lt_irrefl _)]

theorem limit?_long : (Value.int long).limit? = some .digits := limit?_of_le (Nat.le_refl _)

end SqlAssembly.Value
