import Entitlement.Proofs.Number.Shortest

/-!
# Where the point stands

The place of the point in a shortest decimal tells between which powers of ten its value lies. That
is at most sixteen places in for a fraction, which lies below 2^52, and more than five places ahead
of the digits just for the numbers below 0.00001. The decimal may lie on the other side of the bound
than the number for one number only, the one that is written 0.00001.
-/

namespace Entitlement

/-- The place of the point, counted from the first digit. -/
def ShortDecimal.point (d : ShortDecimal) : Int :=
  d.exponent + (Nat.toDigits 10 d.digits).length

namespace Binary64

variable {x : Binary64} {d : ShortDecimal}

theorem quarters_point_bounds (hd : 0 < d.digits) :
    gridStep (d.point - 1) ≤ d.quarters ∧ d.quarters < gridStep d.point := by
  obtain ⟨hlow, hhigh⟩ := Decimal.length_toDigits_bounds hd
  have hlength := Nat.length_toDigits_pos (b := 10) (n := d.digits)
  have hquarters : d.quarters = d.digits * gridStep d.exponent := quarters_mk _ _
  have hstep := gridStep_pos d.exponent
  rw [ShortDecimal.point]
  generalize (Nat.toDigits 10 d.digits).length = n at hlow hhigh hlength
  rw [show d.exponent + n - 1 = d.exponent + (n - 1 : Nat) by omega, gridStep_add, gridStep_add,
    hquarters, mul_comm, mul_comm (gridStep d.exponent)]
  constructor
  · refine mul_le_mul_of_nonneg_right ?_ hstep.le
    exact_mod_cast hlow
  · refine mul_lt_mul_of_pos_right ?_ hstep
    exact_mod_cast hhigh

/-- The point tells between which powers of ten the value lies. -/
theorem point_le_iff (hd : 0 < d.digits) {n : Int} : d.point ≤ n ↔ d.quarters < gridStep n := by
  obtain ⟨hlow, hhigh⟩ := quarters_point_bounds hd
  constructor
  · intro hn
    rcases Int.lt_or_eq_of_le hn with hlt | rfl
    · exact hhigh.trans (gridStep_lt_iff.mpr hlt)
    · exact hhigh
  · intro hn
    have hlt := gridStep_lt_iff.mp (hlow.trans_lt hn)
    omega

/-- A fraction has at most sixteen digits before the point. -/
theorem point_shortest_le (tie : Tie) (hfraction : ¬ 2 ^ 1074 ∣ x.units) :
    (x.shortest tie).point ≤ 16 := by
  have hx : 0 < x.units := Nat.pos_of_ne_zero fun hzero => hfraction (hzero ▸ Nat.dvd_zero _)
  rw [point_le_iff (digits_shortest_pos tie hx)]
  refine (ends_of_readsBack (readsBack_shortest tie hx)).2.trans_lt ?_
  have hscale := scale_lt_of_not_dvd hfraction
  have hsig := significand_lt x
  rw [show (16 : Int) = (16 : Nat) from rfl, gridStep_natCast, Nat.cast_lt, upperEnd]
  calc (4 * x.significand + 2) * 2 ^ x.scale
      ≤ 2 ^ 55 * 2 ^ 1073 :=
        Nat.mul_le_mul (by omega) (Nat.pow_le_pow_right (by decide) (by omega))
    _ < 10 ^ 16 * 2 ^ 1076 := by decide +kernel

/-- The number that is written 0.00001, which is a little more than that. -/
def leastPositional : Binary64 :=
  ⟨false, 0x3EE4F8B588E368F1, by decide⟩

theorem leastPositional_ends :
    10 ^ 5 * leastPositional.lowerEnd < 2 ^ 1076 ∧ 2 ^ 1076 ≤ 10 ^ 5 * leastPositional.upperEnd ∧
      2 ^ 1076 ≤ 10 ^ 5 * leastPositional.quarterUnits := by
  decide +kernel

theorem shortest_leastPositional (tie : Tie) : leastPositional.shortest tie = ⟨1, -5⟩ := by
  cases tie <;> decide +kernel

/-- The sign plays no part for the digits. -/
theorem shortest_eq_of_magnitude_eq {y : Binary64} (tie : Tie) (h : x.magnitude = y.magnitude) :
    x.shortest tie = y.shortest tie ∧ x.quarterUnits = y.quarterUnits := by
  obtain ⟨_, m, _⟩ := x
  obtain ⟨_, n, _⟩ := y
  cases h
  exact ⟨rfl, rfl⟩

/-- To lie from 0.00001 on, counted in the units of the ends. -/
theorem gridStep_le_natCast {n : Nat} : gridStep (-5) ≤ n ↔ 2 ^ 1076 ≤ 10 ^ 5 * n := by
  have hraise : (0 : ℚ) < 10 ^ 5 := by norm_num
  have hstep : gridStep (-5) * 10 ^ 5 = (2 ^ 1076 : Nat) := by
    rw [← gridStep_add, show (-5 : Int) + (5 : Nat) = 0 from rfl, gridStep_zero]
  have hcast : (n : ℚ) * 10 ^ 5 = (10 ^ 5 * n : Nat) := by
    rw [mul_comm]
    push_cast
    rfl
  rw [← mul_le_mul_iff_left₀ hraise, hstep, hcast, Nat.cast_le]

/-- The decimals of a number lie from 0.00001 on just if the number does. -/
theorem le_quarters_shortest_iff (tie : Tie) (hx : 0 < x.units) :
    gridStep (-5) ≤ (x.shortest tie).quarters ↔ 2 ^ 1074 ≤ 10 ^ 5 * x.units := by
  obtain ⟨hlow, hhigh⟩ := ends_of_readsBack (readsBack_shortest tie hx)
  obtain ⟨hbefore, hafter, hleast⟩ := leastPositional_ends
  have hunits : 2 ^ 1074 ≤ 10 ^ 5 * x.units ↔ 2 ^ 1076 ≤ 10 ^ 5 * x.quarterUnits := by
    rw [quarterUnits_eq, two_pow_eq_of_eq_add (show 1076 = 1074 + 2 from rfl), Nat.mul_left_comm,
      Nat.mul_le_mul_left_iff (by decide)]
  rw [hunits]
  rcases Nat.lt_trichotomy x.magnitude leastPositional.magnitude with hless | hsame | hmore
  · have hend : 10 ^ 5 * x.upperEnd < 2 ^ 1076 :=
      (Nat.mul_le_mul_left _ (upperEnd_le_lowerEnd hless)).trans_lt hbefore
    have hbelow : x.upperEnd < gridStep (-5) :=
      not_le.mp (mt gridStep_le_natCast.mp (Nat.not_le.mpr hend))
    refine iff_of_false (not_le.mpr (hhigh.trans_lt hbelow)) (Nat.not_le.mpr ?_)
    exact (Nat.mul_le_mul_left _ (quarterUnits_lt_upperEnd x).le).trans_lt hend
  · obtain ⟨hshortest, hnumber⟩ := shortest_eq_of_magnitude_eq tie hsame
    rw [hshortest, shortest_leastPositional, quarters_mk, Nat.cast_one, one_mul, hnumber]
    exact iff_of_true le_rfl hleast
  · have hend : 2 ^ 1076 ≤ 10 ^ 5 * x.lowerEnd :=
      hafter.trans (Nat.mul_le_mul_left _ (upperEnd_le_lowerEnd hmore))
    refine iff_of_true ((gridStep_le_natCast.mpr hend).trans hlow) (hend.trans ?_)
    exact Nat.mul_le_mul_left _ (lowerEnd_lt_quarterUnits hx).le

end Binary64

end Entitlement
