import Mathlib.Algebra.Order.Ring.Unbundled.Rat

/-!
# Columns of the database

What PostgreSQL stores of a value. A commit with a value that its column refuses fails, and
changes nothing.
-/

namespace PlgBooster.Server

/-- `String(length)`: blanks beyond the length are cut off; any other character there is
refused, and so is a NUL. -/
def varchar (length : Nat) (text : String) : Option String :=
  if '\x00' ∈ text.toList ∨ (text.toList.drop length).any (· ≠ ' ') then none
  else some (String.ofList (text.toList.take length))

/-- `Numeric(10, 2)`, of a whole amount. -/
def FitsNumeric (amount : Rat) : Prop := -100000000 < amount ∧ amount < 100000000

instance (amount : Rat) : Decidable (FitsNumeric amount) := inferInstanceAs (Decidable (_ ∧ _))

/-- `Integer`. -/
def FitsInteger (n : Int) : Prop := -2147483648 ≤ n ∧ n ≤ 2147483647

instance (n : Int) : Decidable (FitsInteger n) := inferInstanceAs (Decidable (_ ∧ _))

theorem varchar_isSome_iff {length : Nat} {text : String} :
    (varchar length text).isSome ↔
      '\x00' ∉ text.toList ∧ ∀ c ∈ text.toList.drop length, c = ' ' := by
  simp [varchar]

example : varchar 3 "abc  " = some "abc" := by decide

end PlgBooster.Server
