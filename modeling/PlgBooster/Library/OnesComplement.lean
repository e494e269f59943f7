import Mathlib.Data.Nat.ModEq

/-!
# One's complement sums

In a base, the carry of a sum can be added back at the low end. This keeps the residue modulo
the base minus one, and it keeps zero apart from everything else. So a one's complement sum
has all digits maximal exactly if the plain sum is a positive multiple of the base minus one,
and the complement of a sum is what has to be added to get there.
-/

namespace OnesComplement

variable (base : Nat)

/-- Add the carry of a number back at its low end. -/
def carry (n : Nat) : Nat := n % base + n / base

/-- One's complement addition. -/
def add (a b : Nat) : Nat := carry base (a + b)

/-- The one's complement sum. -/
def sum (words : List Nat) : Nat := words.foldl (add base) 0

variable {base}

theorem carry_modEq (base n : Nat) : carry base n ≡ n [MOD base - 1] := by
  cases base with
  | zero => simp [carry, Nat.ModEq]
  | succ maximum =>
      rw [Nat.succ_sub_one]
      have split : n = n % (maximum + 1) + n / (maximum + 1) + maximum * (n / (maximum + 1)) := by
        have := Nat.mod_add_div n (maximum + 1)
        rw [Nat.add_mul] at this
        omega
      have same : carry (maximum + 1) n + maximum * (n / (maximum + 1)) = n := split.symm
      calc
        carry (maximum + 1) n
            ≡ carry (maximum + 1) n + maximum * (n / (maximum + 1)) [MOD maximum] := by
          simp [Nat.ModEq]
        _ = n := same

theorem carry_eq_zero_iff {n : Nat} : carry base n = 0 ↔ n = 0 := by
  constructor
  · intro zero
    obtain ⟨low, high⟩ := Nat.add_eq_zero_iff.mp zero
    have := Nat.mod_add_div n base
    rw [low, high] at this
    omega
  · rintro rfl
    simp [carry]

theorem carry_of_lt {n : Nat} (small : n < base) : carry base n = n := by
  rw [carry, Nat.mod_eq_of_lt small, Nat.div_eq_of_lt small, Nat.add_zero]

theorem add_lt {a b : Nat} (ha : a < base) (hb : b < base) : add base a b < base := by
  by_cases small : a + b < base
  · rw [add, carry_of_lt small]
    exact small
  · have one : (a + b) / base = 1 := Nat.div_eq_of_lt_le (by omega) (by omega)
    have rest := Nat.mod_add_div (a + b) base
    rw [one] at rest
    rw [add, carry, one]
    omega

/-- A number and what it becomes when its carries are added back. -/
structure Folds (base folded n : Nat) : Prop where
  below : folded < base
  same : folded ≡ n [MOD base - 1]
  zero : folded = 0 ↔ n = 0

namespace Folds

variable {folded n : Nat}

theorem of_lt (small : n < base) : Folds base n n := ⟨small, .refl _, Iff.rfl⟩

theorem of_carry (folds : Folds base folded (carry base n)) : Folds base folded n where
  below := folds.below
  same := folds.same.trans (carry_modEq base n)
  zero := folds.zero.trans carry_eq_zero_iff

/-- All digits of the folded number are maximal exactly if the number is a positive multiple. -/
theorem eq_max_iff (folds : Folds base folded n) (large : 1 < base) :
    folded = base - 1 ↔ 0 < n ∧ n ≡ 0 [MOD base - 1] := by
  constructor
  · intro maximal
    refine ⟨Nat.pos_of_ne_zero fun none => ?_, folds.same.symm.trans ?_⟩
    · have := folds.zero.mpr none
      omega
    · rw [maximal]
      simp [Nat.ModEq]
  · rintro ⟨some, multiple⟩
    have divides : base - 1 ∣ folded := Nat.modEq_zero_iff_dvd.mp (folds.same.trans multiple)
    have nonzero : folded ≠ 0 := fun none => by
      have := folds.zero.mp none
      omega
    have least := Nat.le_of_dvd (Nat.pos_of_ne_zero nonzero) divides
    have below := folds.below
    omega

end Folds

/-- A one's complement sum is the folded sum. -/
theorem folds_sum (positive : 0 < base) {words : List Nat} (small : ∀ word ∈ words, word < base) :
    Folds base (sum base words) words.sum := by
  have general : ∀ words : List Nat, (∀ word ∈ words, word < base) → ∀ start < base,
      Folds base (words.foldl (add base) start) (start + words.sum) := by
    intro words small
    induction words with
    | nil =>
        intro start below
        exact .of_lt below
    | cons word words ih =>
        intro start below
        obtain ⟨first, rest⟩ := List.forall_mem_cons.mp small
        have later := ih rest (add base start word) (add_lt below first)
        rw [List.foldl_cons, List.sum_cons, ← Nat.add_assoc]
        refine ⟨later.below, later.same.trans ((carry_modEq base _).add_right _),
          later.zero.trans ?_⟩
        rw [Nat.add_eq_zero_iff, Nat.add_eq_zero_iff, add, carry_eq_zero_iff]
  have here := general words small 0 positive
  rwa [Nat.zero_add] at here

/-- With the complement of a number, words sum up to maximal digits: with the complement of the
folded sum of the others, or with what stands for it when it is zero. -/
theorem sum_eq_max {n folded complement : Nat} {words : List Nat} (large : 1 < base)
    (small : ∀ word ∈ words, word < base) (folds : Folds base folded n)
    (total : words.sum = n + complement)
    (complements : complement = base - 1 - folded ∨
      base - 1 - folded = 0 ∧ complement = base - 1) :
    sum base words = base - 1 := by
  have below := folds.below
  refine ((folds_sum (by omega) small).eq_max_iff large).mpr ?_
  rw [total]
  constructor
  · by_cases none : n = 0
    · have := folds.zero.mpr none
      omega
    · omega
  · have whole : folded + complement ≡ 0 [MOD base - 1] := by
      rcases complements with rfl | ⟨maximal, rfl⟩
      · rw [show folded + (base - 1 - folded) = base - 1 by omega]
        simp [Nat.ModEq]
      · rw [show folded = base - 1 by omega]
        simp [Nat.ModEq]
    exact (folds.same.symm.add_right complement).trans whole

end OnesComplement
