import Mathlib.Data.List.Basic
import Mathlib.Data.List.Induction

/-!
# Canonical decimal numerals

Core's `Nat.toDigits` prints and `Nat.ofDigitChars` reads, and core proves that
reading what was printed gives the number back. This file adds the converse: a
numeral without a superfluous leading zero is exactly what its value prints as,
so a reader that refuses leading zeros accepts nothing but printed numerals.
-/

namespace Decimal

/-- A nonempty string of digits that starts with `0` only if it is `0`. -/
structure Canonical (numeral : List Char) : Prop where
  nonempty : numeral ≠ []
  digits : ∀ c ∈ numeral, c.isDigit
  lead : 1 < numeral.length → numeral.head? ≠ some '0'

theorem digitChar_of_isDigit {c : Char} (digit : c.isDigit) :
    (c.toNat - '0'.toNat).digitChar = c ∧ c.toNat - '0'.toNat < 10 := by
  have range : 48 ≤ c.toNat ∧ c.toNat ≤ 57 := by
    simpa [Char.isDigit, UInt32.le_iff_toNat_le] using digit
  have small : c.toNat - '0'.toNat < 10 := by
    change c.toNat - 48 < 10
    omega
  refine ⟨?_, small⟩
  apply Char.toNat_inj.mp
  rw [Nat.toNat_digitChar_of_lt_ten small]
  change 48 + (c.toNat - 48) = c.toNat
  omega

theorem ofDigitChars_snoc (numeral : List Char) (c : Char) :
    Nat.ofDigitChars 10 (numeral ++ [c]) 0 =
      10 * Nat.ofDigitChars 10 numeral 0 + (c.toNat - '0'.toNat) := by
  rw [Nat.ofDigitChars_append, Nat.ofDigitChars_cons, Nat.ofDigitChars_nil]

/-- A canonical numeral is what its value prints as. -/
theorem toDigits_ofDigitChars {numeral : List Char} (canonical : Canonical numeral) :
    Nat.toDigits 10 (Nat.ofDigitChars 10 numeral 0) = numeral := by
  induction numeral using List.reverseRecOn with
  | nil => exact absurd rfl canonical.nonempty
  | append_singleton front c ih =>
      obtain ⟨prints, small⟩ :=
        digitChar_of_isDigit (canonical.digits c (by simp))
      rw [ofDigitChars_snoc]
      by_cases empty : front = []
      · subst empty
        rw [Nat.ofDigitChars_nil, Nat.mul_zero, Nat.zero_add, Nat.toDigits_of_lt_base small,
          prints, List.nil_append]
      · have long : 1 < (front ++ [c]).length := by
          have := List.length_pos_iff.mpr empty
          simp only [List.length_append, List.length_singleton]
          omega
        have head : front.head? ≠ some '0' := by
          have := canonical.lead long
          rwa [List.head?_append_of_ne_nil _ empty] at this
        have shorter : Nat.toDigits 10 (Nat.ofDigitChars 10 front 0) = front :=
          ih ⟨empty, fun d member => canonical.digits d (by simp [member]), fun _ => head⟩
        -- The front is not `0`, for a front that prints as `0` starts with it.
        have positive : 0 < Nat.ofDigitChars 10 front 0 := by
          apply Nat.pos_of_ne_zero
          intro zero
          rw [zero, Nat.toDigits_zero] at shorter
          exact head (by rw [← shorter]; rfl)
        rw [← Nat.toDigits_append_toDigits (by decide) positive small, shorter,
          Nat.toDigits_of_lt_base small, prints]

theorem toDigits_head_ne_zero {n : Nat} (positive : 0 < n) :
    (Nat.toDigits 10 n).head? ≠ some '0' := by
  induction n using Nat.strongRecOn with
  | ind n ih =>
      by_cases small : n < 10
      · rw [Nat.toDigits_of_lt_base small, List.head?_cons]
        intro zero
        have := Nat.digitChar_eq_zero.mp (Option.some.inj zero)
        omega
      · rw [Nat.toDigits_of_base_le (by decide) (by omega),
          List.head?_append_of_ne_nil _ Nat.toDigits_ne_nil]
        exact ih (n / 10) (by omega) (by omega)

/-- Printing produces canonical numerals. -/
theorem canonical_toDigits (n : Nat) : Canonical (Nat.toDigits 10 n) where
  nonempty := Nat.toDigits_ne_nil
  digits _ member := Nat.isDigit_of_mem_toDigits (by decide) (by decide) member
  lead long := by
    apply toDigits_head_ne_zero
    by_contra zero
    have : n = 0 := by omega
    subst this
    simp at long

end Decimal
