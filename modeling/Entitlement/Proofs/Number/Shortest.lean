import Entitlement.Proofs.Number.Digits
import Entitlement.Proofs.Number.Interval
import Mathlib.Data.List.Basic

/-!
# The shortest decimal

Seventeen digits always suffice, so that the search for the shortest decimal finds one and the exact
value is never needed. What is found reads back. The decimal of an integer has no digits after the
point, because the grid of the integers holds the number itself and is tried before any finer one;
that of a fraction has some, because no integer reads back as it.
-/

namespace Entitlement

/-! ### Zeros at the end -/

theorem ShortDecimal.value_dropZeros (fuel : Nat) (d : ShortDecimal) :
    (d.dropZeros fuel).value = d.value := by
  induction fuel generalizing d with
  | zero => rfl
  | succ fuel ih =>
    rw [dropZeros]
    split_ifs with h
    · have hdigits : (d.digits : ℚ) = (d.digits / 10 : Nat) * 10 := by
        exact_mod_cast (Nat.div_mul_cancel (Nat.dvd_of_mod_eq_zero h.2)).symm
      rw [ih, value, value, hdigits, zpow_add_one₀ (by norm_num)]
      ring
    · rfl

theorem ShortDecimal.le_exponent_dropZeros (fuel : Nat) (d : ShortDecimal) :
    d.exponent ≤ (d.dropZeros fuel).exponent := by
  induction fuel generalizing d with
  | zero => exact Int.le_refl _
  | succ fuel ih =>
    rw [dropZeros]
    split_ifs with h
    · exact Int.le_trans (Int.le_add_one (Int.le_refl _)) (ih _)
    · exact Int.le_refl _

namespace Binary64

variable {x : Binary64} {tie : Tie} {d : ShortDecimal} {exponent : Int}

/-! ### Grids -/

/-- The step of the grid of a power of ten, in the units of the ends. -/
def gridStep (exponent : Int) : ℚ :=
  10 ^ exponent * 2 ^ 1076

theorem gridStep_pos (exponent : Int) : 0 < gridStep exponent := by
  have hten : (0 : ℚ) < 10 ^ exponent := zpow_pos (by norm_num) _
  exact mul_pos hten (pow_pos (by norm_num) _)

theorem quarters_mk (n : Nat) (exponent : Int) :
    (ShortDecimal.mk n exponent).quarters = n * gridStep exponent := by
  rw [ShortDecimal.quarters, ShortDecimal.value, gridStep, mul_assoc]

/-- The digits of the decimal of a grid that is the number or next below it. -/
def gridBelow (x : Binary64) (exponent : Int) : Nat :=
  x.quarterUnits * 10 ^ (-exponent).toNat / (2 ^ 1076 * 10 ^ exponent.toNat)

theorem gridBelow_mul_le (x : Binary64) (exponent : Int) :
    x.gridBelow exponent * gridStep exponent ≤ x.quarterUnits ∧
      x.quarterUnits < (x.gridBelow exponent + 1) * gridStep exponent := by
  have hten : (10 : ℚ) ≠ 0 := by norm_num
  have hpos : (0 : ℚ) < 10 ^ (-exponent).toNat := pow_pos (by norm_num) _
  have hstep (n : ℚ) : n * gridStep exponent * 10 ^ (-exponent).toNat =
      n * (2 ^ 1076 * 10 ^ exponent.toNat) := by
    have hsign : (exponent.toNat : Int) = exponent + (-exponent).toNat := by omega
    rw [gridStep, ← zpow_natCast 10 exponent.toNat, hsign, zpow_add₀ hten, zpow_natCast, mul_assoc,
      mul_right_comm, mul_comm (2 ^ 1076)]
  have hden : 0 < 2 ^ 1076 * 10 ^ exponent.toNat := by positivity
  have hle := Nat.div_mul_le_self (x.quarterUnits * 10 ^ (-exponent).toNat)
    (2 ^ 1076 * 10 ^ exponent.toNat)
  have hlt := Nat.lt_mul_div_succ (x.quarterUnits * 10 ^ (-exponent).toNat) hden
  rw [← gridBelow, ← Nat.cast_le (α := ℚ)] at hle
  rw [← gridBelow, ← Nat.cast_lt (α := ℚ)] at hlt
  simp only [Nat.cast_mul, Nat.cast_pow, Nat.cast_ofNat, Nat.cast_add, Nat.cast_one] at hle hlt
  constructor
  · refine le_of_mul_le_mul_right ?_ hpos
    rw [hstep]
    exact hle
  · refine lt_of_mul_lt_mul_right ?_ hpos.le
    rw [hstep, mul_comm (x.gridBelow exponent + 1 : ℚ)]
    exact hlt

/-- On a grid a decimal is found if one of the two around the number reads back, and what is found
reads back. -/
theorem onGrid?_cases (x : Binary64) (tie : Tie) (exponent : Int) :
    (∃ d, x.onGrid? tie exponent = some d ∧ x.readsBack d = true ∧ d.exponent = exponent) ∨
      (x.onGrid? tie exponent = none ∧ x.readsBack ⟨x.gridBelow exponent, exponent⟩ = false ∧
        x.readsBack ⟨x.gridBelow exponent + 1, exponent⟩ = false) := by
  simp only [onGrid?, gridBelow]
  generalize x.quarterUnits * 10 ^ (-exponent).toNat = num
  generalize 2 ^ 1076 * 10 ^ exponent.toNat = den
  cases hbelow : x.readsBack ⟨num / den, exponent⟩ <;>
    cases habove : x.readsBack ⟨num / den + 1, exponent⟩
  case false.false => exact Or.inr ⟨rfl, rfl, rfl⟩
  case false.true => exact Or.inl ⟨_, rfl, habove, rfl⟩
  case true.false => exact Or.inl ⟨_, rfl, hbelow, rfl⟩
  case true.true =>
    have hboth (d : ShortDecimal) (hd : d = ⟨num / den, exponent⟩ ∨ d = ⟨num / den + 1, exponent⟩) :
        x.readsBack d = true ∧ d.exponent = exponent := by
      rcases hd with rfl | rfl
      · exact ⟨hbelow, rfl⟩
      · exact ⟨habove, rfl⟩
    refine Or.inl ?_
    cases tie <;> dsimp only <;> split_ifs <;> exact ⟨_, rfl, hboth _ (by simp)⟩

/-! ### What is found -/

theorem significand_pos (hx : 0 < x.units) : 0 < x.significand :=
  Nat.pos_of_mul_pos_right hx

theorem lowerEnd_lt_quarterUnits (hx : 0 < x.units) : x.lowerEnd < x.quarterUnits := by
  have hgap := lowerGap_cases x
  have hsig := significand_pos hx
  rw [lowerEnd_eq, quarterUnits]
  exact Nat.mul_lt_mul_of_pos_right (by omega) (Nat.two_pow_pos _)

theorem lowerEnd_pos (hx : 0 < x.units) : 0 < x.lowerEnd := by
  have hgap := lowerGap_cases x
  have hsig := significand_pos hx
  rw [lowerEnd_eq]
  exact Nat.mul_pos (by omega) (Nat.two_pow_pos _)

theorem quarterUnits_lt_upperEnd (x : Binary64) : x.quarterUnits < x.upperEnd := by
  rw [upperEnd, quarterUnits]
  exact Nat.mul_lt_mul_of_pos_right (by omega) (Nat.two_pow_pos _)

theorem readsBack_of_quarters_eq (hx : 0 < x.units) (h : d.quarters = x.quarterUnits) :
    x.readsBack d = true := by
  refine readsBack_of_between ?_ ?_ <;> rw [h]
  · exact Nat.cast_lt.mpr (lowerEnd_lt_quarterUnits hx)
  · exact Nat.cast_lt.mpr (quarterUnits_lt_upperEnd x)

theorem exists_onGrid?_of_readsBack (tie : Tie)
    (h : x.readsBack ⟨x.gridBelow exponent, exponent⟩ = true ∨
      x.readsBack ⟨x.gridBelow exponent + 1, exponent⟩ = true) :
    ∃ d, x.onGrid? tie exponent = some d ∧ x.readsBack d = true ∧ d.exponent = exponent := by
  rcases onGrid?_cases x tie exponent with hfound | ⟨-, hbelow, habove⟩
  · exact hfound
  · simp [hbelow, habove] at h

/-- A grid that holds the number has a decimal that reads back. -/
theorem exists_onGrid?_of_eq (tie : Tie) (hx : 0 < x.units) {n : Nat}
    (hn : x.quarterUnits = n * gridStep exponent) :
    ∃ d, x.onGrid? tie exponent = some d ∧ x.readsBack d = true ∧ d.exponent = exponent := by
  refine exists_onGrid?_of_readsBack tie (Or.inl (readsBack_of_quarters_eq hx ?_))
  obtain ⟨hle, hlt⟩ := gridBelow_mul_le x exponent
  rw [hn] at hle hlt
  have hpos := gridStep_pos exponent
  have hbelow : x.gridBelow exponent ≤ n := Nat.cast_le.mp (le_of_mul_le_mul_right hle hpos)
  have habove : n < x.gridBelow exponent + 1 := by
    rw [← Nat.cast_lt (α := ℚ), Nat.cast_add_one]
    exact lt_of_mul_lt_mul_right hlt hpos.le
  rw [quarters_mk, hn, Nat.le_antisymm hbelow (Nat.lt_succ_iff.mp habove)]

theorem cast_upperEnd (x : Binary64) :
    (x.upperEnd : ℚ) = x.quarterUnits + 2 * 2 ^ x.scale := by
  rw [upperEnd, quarterUnits, Nat.add_mul, Nat.cast_add]
  push_cast
  rfl

theorem cast_lowerEnd (hx : 0 < x.units) :
    (x.lowerEnd : ℚ) = x.quarterUnits - x.lowerGap * 2 ^ x.scale := by
  have hgap := lowerGap_cases x
  have hsig := significand_pos hx
  rw [lowerEnd_eq, quarterUnits, Nat.sub_mul, Nat.cast_sub (Nat.mul_le_mul_right _ (by omega))]
  push_cast
  rfl

/-- A grid that is fine enough for seventeen digits is finer than the interval is wide. -/
theorem gridStep_lt_width (hfine : gridStep exponent * 10 ^ 16 ≤ x.quarterUnits) :
    gridStep exponent < (2 + x.lowerGap) * 2 ^ x.scale := by
  have hunit : (0 : ℚ) < 2 ^ x.scale := pow_pos (by norm_num) _
  have hnumber : (x.quarterUnits : ℚ) = 4 * (x.significand * 2 ^ x.scale) := by
    rw [quarterUnits, Nat.mul_assoc]
    push_cast
    rfl
  rw [hnumber] at hfine
  rcases lowerGap_cases x with ⟨hone, hsig⟩ | ⟨htwo, -⟩
  · rw [hsig] at hfine
    rw [hone]
    push_cast at hfine ⊢
    linarith
  · have hcast : (x.significand : ℚ) ≤ 2 ^ 53 := by
      exact_mod_cast (significand_lt x).le
    have hsig : (x.significand * 2 ^ x.scale : ℚ) ≤ 2 ^ 53 * 2 ^ x.scale :=
      mul_le_mul_of_nonneg_right hcast hunit.le
    rw [htwo]
    push_cast
    linarith

/-- A grid that is fine enough for seventeen digits has a decimal that reads back: one of the two
decimals around the number lies inside the interval. -/
theorem exists_onGrid?_of_le (tie : Tie) (hx : 0 < x.units)
    (hfine : gridStep exponent * 10 ^ 16 ≤ x.quarterUnits) :
    ∃ d, x.onGrid? tie exponent = some d ∧ x.readsBack d = true ∧ d.exponent = exponent := by
  have hlower := cast_lowerEnd hx
  have hupper := cast_upperEnd x
  have hnarrow := gridStep_lt_width hfine
  have hinside := Nat.cast_lt (α := ℚ).mpr (lowerEnd_lt_quarterUnits hx)
  obtain ⟨hle, hlt⟩ := gridBelow_mul_le x exponent
  refine exists_onGrid?_of_readsBack tie ?_
  rcases lt_or_ge ((x.gridBelow exponent + 1) * gridStep exponent : ℚ) x.upperEnd with hin | hout
  · refine Or.inr (readsBack_of_between ?_ ?_) <;> rw [quarters_mk, Nat.cast_add_one]
    · exact hinside.trans hlt
    · exact hin
  · refine Or.inl (readsBack_of_between ?_ ?_) <;> rw [quarters_mk]
    · linarith
    · exact hle.trans_lt (Nat.cast_lt.mpr (quarterUnits_lt_upperEnd x))

/-! ### The first grid -/

theorem gridStep_add (exponent : Int) (n : Nat) :
    gridStep (exponent + n) = gridStep exponent * 10 ^ n := by
  rw [gridStep, gridStep, zpow_add₀ (by norm_num), zpow_natCast, mul_right_comm]

theorem gridStep_natCast (n : Nat) : gridStep n = (10 ^ n * 2 ^ 1076 : Nat) := by
  rw [gridStep, zpow_natCast]
  simp only [Nat.cast_mul, Nat.cast_pow, Nat.cast_ofNat]

theorem gridStep_lt_iff {e f : Int} : gridStep e < gridStep f ↔ e < f := by
  rw [gridStep, gridStep, mul_lt_mul_iff_left₀ (pow_pos (by norm_num) _),
    zpow_lt_zpow_iff_right₀ (by norm_num)]

theorem gridStep_zero : gridStep 0 = (2 ^ 1076 : Nat) := by
  rw [gridStep, zpow_zero, one_mul, Nat.cast_pow, Nat.cast_ofNat]

/-- The decimal scale of a number tells between which powers of ten it lies. -/
theorem decimalScale_bounds (hx : 0 < x.units) :
    gridStep (x.decimalScale - 1) ≤ x.quarterUnits ∧
      x.quarterUnits < gridStep x.decimalScale := by
  have hbig : 2 ^ 1074 ≤ 10 ^ 324 := by decide +kernel
  have hpos : 0 < 2 ^ 1074 := Nat.two_pow_pos 1074
  have hle := Nat.div_mul_le_self (x.units * 10 ^ 324) (2 ^ 1074)
  have hlt := Nat.lt_mul_div_succ (x.units * 10 ^ 324) hpos
  have hone : 0 < x.units * 10 ^ 324 / 2 ^ 1074 :=
    Nat.div_pos (hbig.trans (Nat.le_mul_of_pos_left _ hx)) hpos
  have hscale : x.decimalScale =
    (Nat.toDigits 10 (x.units * 10 ^ 324 / 2 ^ 1074)).length - 324 := rfl
  generalize x.units * 10 ^ 324 / 2 ^ 1074 = q at hle hlt hone hscale
  obtain ⟨hlow, hhigh⟩ := Decimal.length_toDigits_bounds hone
  have hlength := Nat.length_toDigits_pos (b := 10) (n := q)
  generalize (Nat.toDigits 10 q).length = n at hlow hhigh hscale hlength
  -- both sides are counted in natural numbers after they are raised by 324 powers of ten
  have hnumber : (x.quarterUnits * 10 ^ 324 : ℚ) = (4 * (x.units * 10 ^ 324) : Nat) := by
    rw [quarterUnits_eq]
    simp only [Nat.cast_mul, Nat.cast_pow, Nat.cast_ofNat, mul_assoc]
  have hfour (k : Nat) : 10 ^ k * 2 ^ 1076 = 4 * (10 ^ k * 2 ^ 1074) := by
    rw [two_pow_eq_of_eq_add (show 1076 = 1074 + 2 from rfl), Nat.mul_left_comm]
  have hraise : (0 : ℚ) < 10 ^ 324 := pow_pos (by norm_num) _
  constructor
  · refine le_of_mul_le_mul_right ?_ hraise
    rw [← gridStep_add, show x.decimalScale - 1 + (324 : Nat) = (n - 1 : Nat) by omega,
      gridStep_natCast, hnumber, hfour]
    exact Nat.cast_le.mpr (Nat.mul_le_mul_left 4 ((Nat.mul_le_mul_right _ hlow).trans hle))
  · refine lt_of_mul_lt_mul_right ?_ hraise.le
    rw [← gridStep_add, show x.decimalScale + (324 : Nat) = n by omega,
      gridStep_natCast, hnumber, hfour, Nat.mul_comm (10 ^ n)]
    refine Nat.cast_lt.mpr (Nat.mul_lt_mul_of_pos_left ?_ (by decide))
    exact hlt.trans_le (Nat.mul_le_mul_left _ hhigh)

/-! ### The decimal that is found -/

/-- A search along the natural numbers returns what the first hit gives. -/
theorem exists_first_of_findSome?_range {α : Type} {f : Nat → Option α} {m : Nat} {a : α}
    (h : (List.range m).findSome? f = some a) : ∃ n, f n = some a ∧ ∀ k < n, f k = none := by
  obtain ⟨tried, n, rest, hsplit, ha, hnone⟩ := List.findSome?_eq_some_iff.mp h
  rw [List.range_eq_range'] at hsplit
  have hn := List.eq_of_range'_eq_append_cons hsplit
  obtain ⟨j, -, htried, -⟩ := List.range'_eq_append_iff.mp hsplit
  rw [htried, List.length_range', Nat.one_mul, Nat.zero_add] at hn
  refine ⟨n, ha, fun k hk => hnone k ?_⟩
  rw [htried, List.mem_range'_1]
  omega

/-- The decimal stems from the first grid that has one, which is among the seventeen that are
tried. -/
theorem exists_found (tie : Tie) (hx : 0 < x.units) :
    ∃ (n : Nat) (d : ShortDecimal), x.shortest tie = d.dropZeros 18 ∧ x.readsBack d = true ∧
      d.exponent = x.decimalScale - (n + 1) ∧
      ∀ m < n, x.onGrid? tie (x.decimalScale - (m + 1)) = none := by
  have hlast : gridStep (x.decimalScale - ((16 : Nat) + 1)) * 10 ^ 16 ≤ x.quarterUnits := by
    rw [← gridStep_add, show x.decimalScale - ((16 : Nat) + 1) + (16 : Nat) = x.decimalScale - 1 by
      omega]
    exact (decimalScale_bounds hx).1
  obtain ⟨e, he, -⟩ := exists_onGrid?_of_le tie hx hlast
  rw [shortest]
  cases hsearch : (List.range 17).findSome? fun (n : Nat) =>
      x.onGrid? tie (x.decimalScale - (n + 1)) with
  | none =>
    have hnone := List.findSome?_eq_none_iff.mp hsearch 16 (by decide)
    rw [he] at hnone
    cases hnone
  | some d =>
    obtain ⟨n, hd, hnone⟩ := exists_first_of_findSome?_range hsearch
    rcases onGrid?_cases x tie (x.decimalScale - (n + 1)) with ⟨e, he, hreads, hexponent⟩ | hno
    · rw [hd] at he
      cases he
      exact ⟨n, d, rfl, hreads, hexponent, hnone⟩
    · rw [hd] at hno
      cases hno.1

theorem readsBack_shortest (tie : Tie) (hx : 0 < x.units) :
    x.readsBack (x.shortest tie) = true := by
  obtain ⟨n, d, hd, hreads, -, -⟩ := exists_found tie hx
  rw [hd, readsBack_congr (d.value_dropZeros 18), hreads]

theorem digits_shortest_pos (tie : Tie) (hx : 0 < x.units) : 0 < (x.shortest tie).digits := by
  have hlow := (ends_of_readsBack (readsBack_shortest tie hx)).1
  by_contra hzero
  rw [ShortDecimal.quarters, ShortDecimal.value, Nat.eq_zero_of_not_pos hzero, Nat.cast_zero,
    zero_mul, zero_mul] at hlow
  exact absurd hlow (not_le.mpr (Nat.cast_pos.mpr (lowerEnd_pos hx)))

/-- Where a step is at most one, a decimal without digits after the point is the number. -/
theorem units_eq_of_exponent_nonneg (tie : Tie) (hx : 0 < x.units) (hscale : x.scale ≤ 1074)
    (hexponent : 0 ≤ (x.shortest tie).exponent) :
    (x.shortest tie).digits * 10 ^ (x.shortest tie).exponent.toNat * 2 ^ 1074 = x.units := by
  obtain ⟨hlow, hhigh⟩ := ends_of_readsBack (readsBack_shortest tie hx)
  rw [ShortDecimal.quarters_of_nonneg hexponent] at hlow hhigh
  exact eq_units_of_mem_interval hscale (Nat.cast_le.mp hlow) (Nat.cast_le.mp hhigh)

/-- A fraction is written with digits after the point. -/
theorem exponent_shortest_neg (tie : Tie) (hfraction : ¬ 2 ^ 1074 ∣ x.units) :
    (x.shortest tie).exponent < 0 := by
  have hx : 0 < x.units := Nat.pos_of_ne_zero fun hzero => hfraction (hzero ▸ Nat.dvd_zero _)
  by_contra hexponent
  have hunits := units_eq_of_exponent_nonneg tie hx (scale_lt_of_not_dvd hfraction).le
    (Int.not_lt.mp hexponent)
  exact hfraction (Dvd.intro_left _ hunits)

/-- An integer is written without digits after the point. -/
theorem exponent_shortest_nonneg (tie : Tie) (hx : 0 < x.units) (hinteger : 2 ^ 1074 ∣ x.units) :
    0 ≤ (x.shortest tie).exponent := by
  obtain ⟨n, d, hd, -, hexponent, hnone⟩ := exists_found tie hx
  rw [hd]
  refine Int.le_trans ?_ (d.le_exponent_dropZeros 18)
  obtain ⟨k, hk⟩ := hinteger
  have hgrid : x.quarterUnits = k * gridStep 0 := by
    rw [gridStep_zero, quarterUnits_eq, hk, two_pow_eq_of_eq_add (show 1076 = 1074 + 2 from rfl),
      ← Nat.cast_mul, Nat.mul_left_comm k, Nat.mul_comm k]
  obtain ⟨e, he, -⟩ := exists_onGrid?_of_eq tie hx hgrid
  have hscale : 0 < x.decimalScale := by
    have hk : (1 : ℚ) ≤ k := by
      rw [Nat.one_le_cast, Nat.one_le_iff_ne_zero]
      rintro rfl
      exact absurd hx (by rw [hk, Nat.mul_zero]; decide)
    have hone : gridStep 0 < gridStep x.decimalScale :=
      calc gridStep 0 ≤ k * gridStep 0 := le_mul_of_one_le_left (gridStep_pos 0).le hk
        _ = x.quarterUnits := hgrid.symm
        _ < gridStep x.decimalScale := (decimalScale_bounds hx).2
    exact gridStep_lt_iff.mp hone
  -- the grid of the integers is not among those that were tried in vain
  by_contra hneg
  have hvain := hnone (x.decimalScale - 1).toNat (by omega)
  rw [show x.decimalScale - ((x.decimalScale - 1).toNat + 1) = 0 by omega, he] at hvain
  cases hvain

end Binary64

end Entitlement
