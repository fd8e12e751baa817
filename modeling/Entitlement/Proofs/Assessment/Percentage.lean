import Entitlement.Assessment
import Mathlib.Tactic.Zify

/-!
# The rounded percentage

A half is rounded up, so a share of less than all may still round to 100: it does as soon as two
hundred times what is missing is no more than the whole. The quotient is a percentage already, and
the numbers on the way to it fit a machine word for all totals that could ever be counted.
-/

namespace Entitlement

theorem roundedPercentage_le (matched total : Nat) : roundedPercentage matched total ≤ 100 :=
  Nat.min_le_left 100 _

theorem roundedPercentage_mono {fewer more : Nat} (h : fewer ≤ more) (total : Nat) :
    roundedPercentage fewer total ≤ roundedPercentage more total := by
  have hnum : 200 * fewer + total ≤ 200 * more + total := by omega
  have hquot : (200 * fewer + total) / (2 * total) ≤ (200 * more + total) / (2 * total) :=
    Nat.div_le_div_right hnum
  rw [roundedPercentage, roundedPercentage]
  omega

/-- The percentage is 100 exactly when at most half a percent is missing. -/
theorem roundedPercentage_eq_hundred_iff {matched total : Nat} (hpos : 0 < total)
    (h : matched ≤ total) :
    roundedPercentage matched total = 100 ↔ 200 * (total - matched) ≤ total := by
  have hquot : 100 ≤ (200 * matched + total) / (2 * total) ↔
      100 * (2 * total) ≤ 200 * matched + total := Nat.le_div_iff_mul_le (by omega)
  have hmin : roundedPercentage matched total = 100 ↔
      100 ≤ (200 * matched + total) / (2 * total) := by
    rw [roundedPercentage]
    omega
  rw [hmin, hquot]
  omega

/-! ### The quotient behind it -/

theorem quotient_bounds (matched : Nat) {total : Nat} (hpos : 0 < total) :
    2 * total * ((200 * matched + total) / (2 * total)) ≤ 200 * matched + total ∧
      200 * matched + total < 2 * total * ((200 * matched + total) / (2 * total) + 1) :=
  ⟨Nat.mul_div_le _ _, Nat.lt_mul_div_succ _ (by omega)⟩

theorem quotient_le_hundred {matched total : Nat} (hpos : 0 < total) (h : matched ≤ total) :
    (200 * matched + total) / (2 * total) ≤ 100 := by
  have hlt : 200 * matched + total < 101 * (2 * total) := by omega
  exact Nat.lt_succ_iff.mp ((Nat.div_lt_iff_lt_mul (by omega)).mpr hlt)

/-- The bound of 100 has no effect. -/
theorem roundedPercentage_eq_quotient {matched total : Nat} (hpos : 0 < total)
    (h : matched ≤ total) :
    roundedPercentage matched total = (200 * matched + total) / (2 * total) :=
  Nat.min_eq_right (quotient_le_hundred hpos h)

/-- The percentage is the only integer that is nearest to the exact one, where the upper one counts
as nearer of two. -/
theorem roundedPercentage_unique {matched total : Nat} (hpos : 0 < total) (h : matched ≤ total)
    (s : Int) :
    2 * total * s ≤ 200 * matched + total ∧ 200 * matched + total < 2 * total * (s + 1) ↔
      s = roundedPercentage matched total := by
  obtain ⟨hlow, hhigh⟩ := quotient_bounds matched hpos
  rw [← roundedPercentage_eq_quotient hpos h] at hlow hhigh
  zify at hlow hhigh
  constructor
  · rintro ⟨hs, hs'⟩
    have hstep : (0 : Int) ≤ 2 * total := by omega
    have hle : s < roundedPercentage matched total + 1 :=
      Int.lt_of_mul_lt_mul_left (Int.lt_of_le_of_lt hs hhigh) hstep
    have hge : (roundedPercentage matched total : Int) < s + 1 :=
      Int.lt_of_mul_lt_mul_left (Int.lt_of_le_of_lt hlow hs') hstep
    omega
  · rintro rfl
    exact ⟨hlow, hhigh⟩

theorem roundedPercentage_eq_zero_iff {matched total : Nat} (hpos : 0 < total) :
    roundedPercentage matched total = 0 ↔ 200 * matched < total := by
  have hquot : (200 * matched + total) / (2 * total) = 0 ↔ 200 * matched + total < 2 * total := by
    rw [Nat.div_eq_zero_iff]
    omega
  have hmin : roundedPercentage matched total = 0 ↔
      (200 * matched + total) / (2 * total) = 0 := by
    rw [roundedPercentage]
    omega
  rw [hmin, hquot]
  omega

/-- The percentage depends on the share alone. -/
theorem roundedPercentage_mul {k : Nat} (hk : 0 < k) (matched total : Nat) :
    roundedPercentage (k * matched) (k * total) = roundedPercentage matched total := by
  have hnum : 200 * (k * matched) + k * total = k * (200 * matched + total) := by grind
  have hden : 2 * (k * total) = k * (2 * total) := by grind
  rw [roundedPercentage, roundedPercentage, hnum, hden, Nat.mul_div_mul_left _ _ hk]

/-! ### Machine words -/

/-- A number that fits 64 bits. -/
def word? (n : Nat) : Option Nat :=
  if n < 2 ^ 64 then some n else none

/-- The percentage worked out step by step in words of 64 bits. It is missing where a step does not
fit a word, where there is nothing to divide by, and where the quotient is no percentage. -/
def percentageInWords? (matched total : Nat) : Option Nat := do
  let scaled ← word? (200 * matched)
  let sum ← word? (scaled + total)
  let twice ← word? (2 * total)
  if twice = 0 ∨ 100 < sum / twice then none else some (sum / twice)

theorem percentageInWords?_eq {matched total : Nat} (hpos : 0 < total) (h : matched ≤ total)
    (hfits : total ≤ (2 ^ 64 - 1) / 201) :
    percentageInWords? matched total = some (roundedPercentage matched total) := by
  have hle : total * 201 ≤ 2 ^ 64 - 1 := (Nat.le_div_iff_mul_le (by omega)).mp hfits
  have hscaled : word? (200 * matched) = some (200 * matched) := if_pos (by omega)
  have hsum : word? (200 * matched + total) = some (200 * matched + total) := if_pos (by omega)
  have htwice : word? (2 * total) = some (2 * total) := if_pos (by omega)
  have hquotient := quotient_le_hundred hpos h
  have hno : ¬ (2 * total = 0 ∨ 100 < (200 * matched + total) / (2 * total)) := by omega
  rw [percentageInWords?, roundedPercentage_eq_quotient hpos h]
  simp only [hscaled, hsum, htwice, Option.bind_eq_bind, Option.bind_some, if_neg hno]

end Entitlement
