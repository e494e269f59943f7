import Mathlib.Data.Int.Log
import Mathlib.Data.Rat.Floor
import Mathlib.Tactic.Linarith
import Mathlib.Tactic.Positivity
import Mathlib.Tactic.FieldSimp
import Mathlib.Tactic.Ring

/-!
# Numbers with a bounded number of binary digits

A number is rounded to its leading binary digits by rounding it to a whole multiple of the
spacing there. How ties are broken is left to the rounding to a whole number: as long as that
one is off by at most a half, the relative error is at most half a unit of the last digit.
-/

namespace Significand

/-- The distance between two neighbours with so many digits, around a positive number. -/
def spacing (digits : ℕ) (x : ℚ) : ℚ := 2 ^ (Int.log 2 x + 1 - digits)

/-- The number with so many digits that `round` selects for a positive number. -/
def nearest (round : ℚ → ℤ) (digits : ℕ) (x : ℚ) : ℚ :=
  round (x / spacing digits x) * spacing digits x

/-- Twice the largest error. -/
theorem spacing_le {digits : ℕ} {x : ℚ} (positive : 0 < x) :
    spacing digits x * 2 ^ digits ≤ 2 * x := by
  have log : (2 : ℚ) ^ Int.log 2 x ≤ x := by
    exact_mod_cast Int.zpow_log_le_self one_lt_two positive
  have : spacing digits x * 2 ^ digits = 2 * 2 ^ Int.log 2 x := by
    rw [spacing, zpow_sub₀ two_ne_zero, zpow_add₀ two_ne_zero, zpow_one, zpow_natCast]
    field_simp
  linarith

theorem spacing_pos (digits : ℕ) (x : ℚ) : 0 < spacing digits x := zpow_pos two_pos _

variable {round : ℚ → ℤ} (close : ∀ y : ℚ, |round y - y| ≤ 1 / 2)
include close

/-- The relative error of a rounded number. -/
theorem abs_nearest_sub_le {digits : ℕ} {x : ℚ} (positive : 0 < x) :
    |nearest round digits x - x| * 2 ^ digits ≤ x := by
  have step := spacing_pos digits x
  have split : nearest round digits x - x =
      (round (x / spacing digits x) - x / spacing digits x) * spacing digits x := by
    rw [nearest, sub_mul, div_mul_cancel₀ _ (ne_of_gt step)]
  have error : |nearest round digits x - x| ≤ 1 / 2 * spacing digits x := by
    rw [split, abs_mul, abs_of_pos step]
    exact mul_le_mul_of_nonneg_right (close _) (le_of_lt step)
  have unit : (0 : ℚ) < 2 ^ digits := by positivity
  have bound := mul_le_mul_of_nonneg_right error (le_of_lt unit)
  have total := @spacing_le digits x positive
  linarith

end Significand
