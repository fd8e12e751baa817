import Entitlement.Number.Shortest
import Mathlib.Algebra.Order.Field.Basic
import Mathlib.Algebra.Order.Field.Rat
import Mathlib.Tactic.Linarith
import Mathlib.Tactic.Positivity
import Mathlib.Tactic.Ring

/-!
# The decimals that read back

A decimal reads back as a binary64 number when its value lies in the interval of that number, from
halfway to the neighbour below to halfway to the neighbour above. Intervals lie in the order of the
numbers and meet in their ends at most. An interval is so narrow, as long as the number counts in
units of at most one, that it holds no integer besides the number.

Ends of intervals are counted in units of 2^-1076.
-/

namespace Entitlement

namespace Binary64

variable {x y : Binary64}

/-! ### Significands and ends -/

theorem significand_lt (x : Binary64) : x.significand < 2 ^ 53 := by
  rw [significand]
  split_ifs <;> omega

theorem le_significand_of_scale_pos (h : 0 < x.scale) : 2 ^ 52 ≤ x.significand := by
  rw [scale] at h
  rw [significand]
  split_ifs <;> omega

theorem quarterUnits_eq (x : Binary64) : x.quarterUnits = 4 * x.units := by
  rw [quarterUnits, units, Nat.mul_assoc]

/-- How many quarters of a step the lower end lies below the number. -/
def lowerGap (x : Binary64) : Nat :=
  if x.significand = 2 ^ 52 && 0 < x.scale then 1 else 2

theorem lowerEnd_eq (x : Binary64) :
    x.lowerEnd = (4 * x.significand - x.lowerGap) * 2 ^ x.scale :=
  rfl

theorem lowerGap_cases (x : Binary64) :
    x.lowerGap = 1 ∧ x.significand = 2 ^ 52 ∨
      x.lowerGap = 2 ∧ (0 < x.scale → x.significand ≠ 2 ^ 52) := by
  rw [lowerGap]
  split_ifs with h
  · rw [Bool.and_eq_true, decide_eq_true_iff] at h
    exact Or.inl ⟨rfl, h.1⟩
  · rw [Bool.and_eq_true, decide_eq_true_iff, decide_eq_true_iff] at h
    exact Or.inr ⟨rfl, fun hscale hsig => h ⟨hsig, hscale⟩⟩

/-- Of two numbers, the interval of the smaller one ends before that of the larger one starts. -/
theorem upperEnd_le_lowerEnd (h : x.magnitude < y.magnitude) : x.upperEnd ≤ y.lowerEnd := by
  have hgap := lowerGap_cases y
  rw [upperEnd, lowerEnd_eq]
  have hscale : x.scale ≤ y.scale :=
    Nat.sub_le_sub_right (Nat.div_le_div_right (Nat.le_of_lt h)) 1
  rcases Nat.eq_or_lt_of_le hscale with hsame | hless
  -- in one scale the significands are in order as well
  · have hsig : x.significand < y.significand := by
      rw [scale, scale] at hsame
      rw [significand, significand]
      split_ifs <;> omega
    rw [hsame]
    exact Nat.mul_le_mul_right _ (by omega)
  -- a step in the larger scale is two steps or more in the smaller one
  · have hsig := significand_lt x
    have hpos : 0 < y.scale := Nat.lt_of_le_of_lt (Nat.zero_le _) hless
    have hlarge := le_significand_of_scale_pos hpos
    calc (4 * x.significand + 2) * 2 ^ x.scale
        ≤ ((4 * y.significand - y.lowerGap) * 2) * 2 ^ x.scale :=
          Nat.mul_le_mul_right _ (by omega)
      _ = (4 * y.significand - y.lowerGap) * 2 ^ (x.scale + 1) := by rw [Nat.pow_succ']; ring
      _ ≤ (4 * y.significand - y.lowerGap) * 2 ^ y.scale :=
        Nat.mul_le_mul_left _ (Nat.pow_le_pow_right (by decide) hless)

/-! ### Integers in an interval -/

theorem two_pow_eq_of_eq_add {m n : Nat} (h : m = n + 2) : 2 ^ m = 4 * 2 ^ n := by
  rw [h, Nat.pow_add, Nat.mul_comm]

/-- Where a step is at most one, the number itself is the only integer in its interval. -/
theorem eq_units_of_mem_interval {n : Nat} (hscale : x.scale ≤ 1074)
    (hlow : x.lowerEnd ≤ n * 2 ^ 1076) (hhigh : n * 2 ^ 1076 ≤ x.upperEnd) :
    n * 2 ^ 1074 = x.units := by
  have hgap := lowerGap_cases x
  have hpow : (2 : Nat) ^ 1074 = 2 ^ (1074 - x.scale) * 2 ^ x.scale := by
    rw [← Nat.pow_add, Nat.sub_add_cancel hscale]
  have hinteger : n * 2 ^ 1076 = 4 * (n * 2 ^ (1074 - x.scale)) * 2 ^ x.scale := by
    rw [two_pow_eq_of_eq_add (show 1076 = 1074 + 2 from rfl), hpow]
    ring
  have hpos : 0 < 2 ^ x.scale := Nat.two_pow_pos _
  rw [lowerEnd_eq, hinteger] at hlow
  rw [upperEnd, hinteger] at hhigh
  have hbelow := Nat.le_of_mul_le_mul_right hlow hpos
  have habove := Nat.le_of_mul_le_mul_right hhigh hpos
  have hsig : n * 2 ^ (1074 - x.scale) = x.significand := by omega
  rw [hpow, ← Nat.mul_assoc, hsig, units]

theorem scale_lt_of_not_dvd (h : ¬ 2 ^ 1074 ∣ x.units) : x.scale < 1074 := by
  by_contra hlarge
  exact h (Nat.dvd_mul_left_of_dvd (Nat.pow_dvd_pow 2 (Nat.not_lt.mp hlarge)) x.significand)

end Binary64

/-! ### Decimals in an interval -/

/-- The exact value of a decimal. -/
def ShortDecimal.value (d : ShortDecimal) : ℚ :=
  d.digits * 10 ^ d.exponent

/-- The value in the units of the ends. -/
def ShortDecimal.quarters (d : ShortDecimal) : ℚ :=
  d.value * 2 ^ 1076

theorem ShortDecimal.value_mul_pow (d : ShortDecimal) :
    d.value * 10 ^ (-d.exponent).toNat = d.digits * 10 ^ d.exponent.toNat := by
  rw [value]
  have hten : (10 : ℚ) ≠ 0 := by norm_num
  cases d.exponent with
  | ofNat n => simp
  | negSucc n =>
    have hpow : (10 : ℚ) ^ (n + 1) ≠ 0 := pow_ne_zero _ hten
    simp [Int.neg_negSucc, zpow_negSucc, hpow]

/-- A decimal without digits after the point is an integer. -/
theorem ShortDecimal.quarters_of_nonneg {d : ShortDecimal} (h : 0 ≤ d.exponent) :
    d.quarters = (d.digits * 10 ^ d.exponent.toNat * 2 ^ 1076 : Nat) := by
  have hvalue := d.value_mul_pow
  rw [Int.toNat_of_nonpos (Int.neg_nonpos_of_nonneg h), pow_zero, mul_one] at hvalue
  rw [quarters, hvalue]
  simp only [Nat.cast_mul, Nat.cast_pow, Nat.cast_ofNat]

namespace Binary64

variable {x : Binary64} {d e : ShortDecimal}

theorem readsBack_iff :
    x.readsBack d = true ↔
      if x.significand % 2 = 0 then x.lowerEnd ≤ d.quarters ∧ d.quarters ≤ x.upperEnd
      else x.lowerEnd < d.quarters ∧ d.quarters < x.upperEnd := by
  have hpos : (0 : ℚ) < 10 ^ (-d.exponent).toNat := by positivity
  have hvalue : ((d.digits * 10 ^ d.exponent.toNat * 2 ^ 1076 : Nat) : ℚ) =
      d.quarters * 10 ^ (-d.exponent).toNat := by
    simp only [Nat.cast_mul, Nat.cast_pow, Nat.cast_ofNat]
    rw [← d.value_mul_pow, ShortDecimal.quarters, mul_right_comm]
  have hend (n : Nat) : ((n * 10 ^ (-d.exponent).toNat : Nat) : ℚ) =
      n * 10 ^ (-d.exponent).toNat := by
    push_cast
    rfl
  simp only [readsBack]
  split_ifs with heven <;>
    simp only [Bool.and_eq_true, decide_eq_true_iff, ← Nat.cast_le (α := ℚ),
      ← Nat.cast_lt (α := ℚ), hvalue, hend, mul_le_mul_iff_left₀ hpos, mul_lt_mul_iff_left₀ hpos]

theorem ends_of_readsBack (h : x.readsBack d = true) :
    x.lowerEnd ≤ d.quarters ∧ d.quarters ≤ x.upperEnd := by
  rw [readsBack_iff] at h
  split_ifs at h
  · exact h
  · exact ⟨h.1.le, h.2.le⟩

theorem readsBack_of_between (hlow : x.lowerEnd < d.quarters) (hhigh : d.quarters < x.upperEnd) :
    x.readsBack d = true := by
  rw [readsBack_iff]
  split_ifs
  · exact ⟨hlow.le, hhigh.le⟩
  · exact ⟨hlow, hhigh⟩

/-- Whether a decimal reads back is a matter of its value alone. -/
theorem readsBack_congr (h : d.value = e.value) : x.readsBack d = x.readsBack e := by
  rw [Bool.eq_iff_iff, readsBack_iff, readsBack_iff, ShortDecimal.quarters, ShortDecimal.quarters, h]

end Binary64

end Entitlement
