import Entitlement.Proofs.Number.Point

/-!
# Integers as binary64 numbers

The number nearest to an integer is an integer, because from 2^52 on there are no others and below
2^53 every integer is a number itself.
-/

namespace Entitlement.Binary64

variable {x : Binary64}

/-! ### Rounding -/

theorem roundDiv_bounds (num den : Nat) :
    num / den ≤ roundDiv num den ∧ roundDiv num den ≤ num / den + 1 := by
  simp only [roundDiv]
  split_ifs <;> omega

theorem roundDiv_of_dvd {num den : Nat} (hden : 0 < den) (h : den ∣ num) :
    roundDiv num den = num / den := by
  simp only [roundDiv, Nat.mod_eq_zero_of_dvd h, Nat.mul_zero, if_pos hden]

/-- A magnitude that stems from a significand of 53 bits, which may have been rounded up to the next
power of two. -/
theorem units_of_magnitude_eq {q s : Nat} (h : x.magnitude = q + s * 2 ^ 52) (hlow : 2 ^ 52 ≤ q)
    (hhigh : q ≤ 2 ^ 53) : x.units = q * 2 ^ s ∧ (q < 2 ^ 53 → x.scale = s) := by
  rcases Nat.lt_or_eq_of_le hhigh with hless | rfl
  · have hscale : x.scale = s := by
      rw [scale]
      omega
    have hsig : x.significand = q := by
      rw [significand, if_neg (by omega)]
      omega
    exact ⟨by rw [units, hscale, hsig], fun _ => hscale⟩
  · have hscale : x.scale = s + 1 := by
      rw [scale]
      omega
    have hsig : x.significand = 2 ^ 52 := by
      rw [significand, if_neg (by omega)]
      omega
    refine ⟨?_, fun h => absurd h (Nat.lt_irrefl _)⟩
    rw [units, hscale, hsig, Nat.pow_add 2 s 1]
    omega

/-! ### The nearest number -/

theorem log2_mul_two_pow {n : Nat} (hn : 0 < n) (k : Nat) : (n * 2 ^ k).log2 = n.log2 + k := by
  have hpos : 0 < 2 ^ k := Nat.two_pow_pos k
  rw [Nat.log2_eq_iff (Nat.mul_pos hn hpos).ne', Nat.add_right_comm, Nat.pow_add, Nat.pow_add]
  exact ⟨Nat.mul_le_mul_right _ (Nat.log2_self_le hn.ne'),
    Nat.mul_lt_mul_of_pos_right Nat.lt_log2_self hpos⟩

/-- In the scale of its highest bit an integer has a significand of 53 bits. -/
theorem quotient_bounds {n s : Nat} (hn : 0 < n) (hs : s = n.log2 + 1022) :
    2 ^ 52 ≤ n * 2 ^ 1074 / 2 ^ s ∧ n * 2 ^ 1074 / 2 ^ s < 2 ^ 53 := by
  have hstep : 0 < 2 ^ s := Nat.two_pow_pos s
  constructor
  · rw [Nat.le_div_iff_mul_le hstep, ← Nat.pow_add, show 52 + s = n.log2 + 1074 by omega,
      Nat.pow_add]
    exact Nat.mul_le_mul_right _ (Nat.log2_self_le hn.ne')
  · rw [Nat.div_lt_iff_lt_mul hstep, ← Nat.pow_add, show 53 + s = n.log2 + 1 + 1074 by omega,
      Nat.pow_add]
    exact Nat.mul_lt_mul_of_pos_right Nat.lt_log2_self (Nat.two_pow_pos _)

/-- The number nearest to a positive integer below 2^64 is an integer, and it is that integer if it
is below 2^53. -/
theorem exists_nearest? (negative : Bool) {n : Nat} (hn : 0 < n) (hbound : n < 2 ^ 64) :
    ∃ x, nearest? negative n 1 = some x ∧ x.negative = negative ∧ 0 < x.units ∧
      2 ^ 1074 ∣ x.units ∧ (n < 2 ^ 53 → x.units = n * 2 ^ 1074 ∧ x.scale ≤ 1074) := by
  have hlog : n.log2 < 64 := (Nat.log2_lt hn.ne').mpr hbound
  obtain ⟨s, hs⟩ : ∃ s, s = n.log2 + 1022 := ⟨_, rfl⟩
  have hmagnitude : nearestMagnitude n 1 = roundDiv (n * 2 ^ 1074) (2 ^ s) + s * 2 ^ 52 := by
    rw [nearestMagnitude, Nat.div_one, Nat.one_mul, log2_mul_two_pow hn, hs]
    rfl
  have hstep : 0 < 2 ^ s := Nat.two_pow_pos s
  obtain ⟨hlow, hhigh⟩ := quotient_bounds hn hs
  have hround := roundDiv_bounds (n * 2 ^ 1074) (2 ^ s)
  have hexact (hsmall : s ≤ 1074) : roundDiv (n * 2 ^ 1074) (2 ^ s) < 2 ^ 53 ∧
      roundDiv (n * 2 ^ 1074) (2 ^ s) * 2 ^ s = n * 2 ^ 1074 := by
    have hdvd : 2 ^ s ∣ n * 2 ^ 1074 := Nat.dvd_mul_left_of_dvd (Nat.pow_dvd_pow 2 hsmall) n
    rw [roundDiv_of_dvd hstep hdvd]
    exact ⟨hhigh, Nat.div_mul_cancel hdvd⟩
  generalize roundDiv (n * 2 ^ 1074) (2 ^ s) = q at hmagnitude hround hexact
  have hfinite : q + s * 2 ^ 52 < 0x7FF0000000000000 := by omega
  obtain ⟨hunits, hscale⟩ := units_of_magnitude_eq (x := ⟨negative, q + s * 2 ^ 52, hfinite⟩)
    rfl (by omega) (by omega)
  refine ⟨⟨negative, q + s * 2 ^ 52, hfinite⟩, ?_, rfl, ?_, ?_, fun hsmall => ?_⟩
  · rw [nearest?, hmagnitude, ofMagnitude?, dif_pos hfinite]
  · rw [hunits]
    exact Nat.mul_pos (by omega) hstep
  · rw [hunits]
    rcases Nat.le_total s 1074 with hsmall | hlarge
    · rw [(hexact hsmall).2]
      exact Nat.dvd_mul_left _ _
    · exact Nat.dvd_mul_left_of_dvd (Nat.pow_dvd_pow 2 hlarge) q
  · have hlog53 : n.log2 < 53 := (Nat.log2_lt hn.ne').mpr hsmall
    have hs1074 : s ≤ 1074 := by omega
    obtain ⟨hless, hsame⟩ := hexact hs1074
    rw [hunits, hscale hless]
    exact ⟨hsame, hs1074⟩

/-- The number nearest to an integer of at most 64 bits that is not zero. -/
theorem exists_ofInt? {k : Int} (hk : k ≠ 0) (hbound : k.natAbs < 2 ^ 64) :
    ∃ x, ofInt? k = some x ∧ x.negative = decide (k < 0) ∧ 0 < x.units ∧ 2 ^ 1074 ∣ x.units ∧
      (k.natAbs < 2 ^ 53 → x.units = k.natAbs * 2 ^ 1074 ∧ x.scale ≤ 1074) :=
  exists_nearest? _ (Int.natAbs_pos.mpr hk) hbound

end Entitlement.Binary64
