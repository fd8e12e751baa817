import Entitlement.Proofs.Number.Integer
import Entitlement.Proofs.Number.Text

/-!
# Values of numbers

Numbers are in the order of their values, and each integer below 2^53 in size is the value of the
number nearest to it.
-/

namespace Entitlement.Binary64

variable {x y : Binary64}

/-- The number of units that make up 1. -/
def unitsOfOne : Nat :=
  2 ^ 1074

theorem unitsOfOne_pos : (0 : ℚ) < unitsOfOne := by
  rw [unitsOfOne, Nat.cast_pos]
  exact Nat.two_pow_pos 1074

/-- The number of units with the sign. -/
def signedUnits (x : Binary64) : Int :=
  if x.negative then -(x.units : Int) else x.units

/-- The exact value of a number. -/
def value (x : Binary64) : ℚ :=
  x.signedUnits / unitsOfOne

/-! ### Order -/

theorem units_lt_of_magnitude_lt (h : x.magnitude < y.magnitude) : x.units < y.units := by
  have hy : 0 < y.units := units_pos_iff.mpr (Nat.ne_of_gt (Nat.lt_of_le_of_lt (Nat.zero_le _) h))
  have hquarters : x.quarterUnits < y.quarterUnits :=
    calc x.quarterUnits < x.upperEnd := quarterUnits_lt_upperEnd x
      _ ≤ y.lowerEnd := upperEnd_le_lowerEnd h
      _ < y.quarterUnits := lowerEnd_lt_quarterUnits hy
  rw [quarterUnits_eq, quarterUnits_eq] at hquarters
  omega

theorem units_eq_of_magnitude_eq (h : x.magnitude = y.magnitude) : x.units = y.units := by
  rw [units, units, significand, significand, scale, scale, h]

theorem le_iff_signedUnits_le : x ≤ y ↔ x.signedUnits ≤ y.signedUnits := by
  have hplace : x ≤ y ↔ x.place ≤ y.place := Iff.rfl
  have hx := units_pos_iff (x := x)
  have hy := units_pos_iff (x := y)
  rw [hplace, place, place, signedUnits, signedUnits]
  rcases Nat.lt_trichotomy x.magnitude y.magnitude with hlt | heq | hgt
  · have hunits := units_lt_of_magnitude_lt hlt
    split_ifs <;> omega
  · have hunits := units_eq_of_magnitude_eq heq
    split_ifs <;> omega
  · have hunits := units_lt_of_magnitude_lt hgt
    split_ifs <;> omega

theorem le_iff_value_le : x ≤ y ↔ x.value ≤ y.value := by
  rw [le_iff_signedUnits_le, value, value, div_le_div_iff_of_pos_right unitsOfOne_pos, Int.cast_le]

theorem lt_iff_value_lt : x < y ↔ x.value < y.value := by
  have hle : y ≤ x ↔ y.value ≤ x.value := le_iff_value_le
  rw [← not_le, ← hle]
  exact (Int.not_le).symm

/-- The least number. -/
def least : Binary64 :=
  ⟨true, 0x7FEFFFFFFFFFFFFF, by decide⟩

/-- The greatest number. -/
def greatest : Binary64 :=
  ⟨false, 0x7FEFFFFFFFFFFFFF, by decide⟩

theorem least_le (x : Binary64) : least ≤ x := by
  have hplace : least ≤ x ↔ -(0x7FEFFFFFFFFFFFFF : Int) ≤ x.place := Iff.rfl
  have hfinite := x.finite
  rw [hplace, place]
  split_ifs <;> omega

theorem le_greatest (x : Binary64) : x ≤ greatest := by
  have hplace : x ≤ greatest ↔ x.place ≤ (0x7FEFFFFFFFFFFFFF : Int) := Iff.rfl
  have hfinite := x.finite
  rw [hplace, place]
  split_ifs <;> omega

/-! ### Integers -/

/-- The number nearest to an integer below 2^53 in size has that integer as its value. -/
theorem exists_value_eq {k : Int} (hk : k.natAbs < 2 ^ 53) :
    ∃ x, ofInt? k = some x ∧ x.value = k := by
  rcases eq_or_ne k 0 with rfl | hne
  · have hunits : zero.units = 0 := by
      by_contra hne
      exact units_pos_iff.mp (Nat.pos_of_ne_zero hne) rfl
    have hsigned : zero.signedUnits = 0 := by
      rw [signedUnits, hunits]
      rfl
    refine ⟨zero, by decide +kernel, ?_⟩
    rw [value, hsigned, Int.cast_zero, zero_div]
  · obtain ⟨x, hx, hnegative, -, -, hsmall⟩ := exists_ofInt? hne (by omega)
    have hunits : x.units = k.natAbs * unitsOfOne := by
      rw [(hsmall hk).1, unitsOfOne]
    have hsigned : x.signedUnits = k * unitsOfOne := by
      rw [signedUnits, hnegative, hunits, Int.natCast_mul]
      split_ifs with hsign
      · rw [← Int.neg_mul, Int.ofNat_natAbs_of_nonpos (Int.le_of_lt (of_decide_eq_true hsign)),
          Int.neg_neg]
      · rw [Int.natAbs_of_nonneg (Int.not_lt.mp fun h => hsign (decide_eq_true h))]
    refine ⟨x, hx, ?_⟩
    rw [value, hsigned, Int.cast_mul, Int.cast_natCast, mul_div_cancel_right₀ _ unitsOfOne_pos.ne']

end Entitlement.Binary64
