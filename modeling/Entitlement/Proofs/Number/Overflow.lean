import Entitlement.Proofs.Number.Digits
import Entitlement.Proofs.Number.Integer
import Entitlement.Proofs.Text.Lower

/-!
# Numerals that are too large

A numeral gives a number just if its size is below 2^1024 - 2^970, which is halfway from the
greatest number to the power of two above it. The number has the sign of the numeral.
-/

namespace Entitlement

/-! ### Quotients that are too large -/

namespace Binary64

variable {num den : Nat}

/-- The least size that is not rounded to a number any more. -/
def overflow : Nat :=
  2 ^ 1024 - 2 ^ 970

/-- The bound in units is half a step below the power of two where the greatest scale ends. -/
theorem overflow_units : overflow * 2 ^ 1074 = (2 ^ 54 - 1) * 2 ^ 2044 := by
  have hsplit (a b c d : Nat) (ha : a + c = 54 + d) (hb : b + c = d) :
      (2 ^ a - 2 ^ b) * 2 ^ c = (2 ^ 54 - 1) * 2 ^ d := by
    rw [Nat.sub_mul, ← Nat.pow_add, ← Nat.pow_add, ha, hb, Nat.pow_add, Nat.sub_mul, Nat.one_mul]
  rw [overflow, hsplit 1024 970 1074 2044 rfl rfl]

/-- The bound is above all numbers of smaller scales than the greatest, below all numbers of larger
ones, and in the greatest scale it is half a step away from the end. -/
theorem overflow_units_bounds :
    (∀ s < 2045, 2 ^ (s + 53) ≤ overflow * 2 ^ 1074) ∧
      (∀ s > 2045, overflow * 2 ^ 1074 ≤ 2 ^ (s + 52)) ∧
      (2 * 2 ^ 53 - 1) * 2 ^ 2045 = 2 * (overflow * 2 ^ 1074) := by
  have hbounds (k top : Nat) (htop : top = k + 1) :
      (∀ s < top, 2 ^ (s + 53) ≤ (2 ^ 54 - 1) * 2 ^ k) ∧
        (∀ s > top, (2 ^ 54 - 1) * 2 ^ k ≤ 2 ^ (s + 52)) ∧
        (2 * 2 ^ 53 - 1) * 2 ^ top = 2 * ((2 ^ 54 - 1) * 2 ^ k) := by
    subst htop
    refine ⟨fun s hs => ?_, fun s hs => ?_, ?_⟩
    · rw [Nat.add_comm, Nat.pow_add]
      exact Nat.mul_le_mul (by decide) (Nat.pow_le_pow_right (by decide) (Nat.le_of_lt_succ hs))
    · rw [show s + 52 = 54 + (s - 2) by omega, Nat.pow_add]
      exact Nat.mul_le_mul (by decide) (Nat.pow_le_pow_right (by decide) (by omega))
    · rw [Nat.pow_succ]
      ring
  rw [overflow_units]
  exact hbounds 2044 2045 rfl

/-- Halfway to an even number a quotient is rounded to it. -/
theorem roundDiv_lt_iff {m : Nat} (hden : 0 < den) (hm : 0 < m) (heven : m % 2 = 0) :
    roundDiv num den < m ↔ 2 * num < (2 * m - 1) * den := by
  have hdivision : den * (num / den) + num % den = num := Nat.div_add_mod num den
  have hrest : num % den < den := Nat.mod_lt _ hden
  simp only [roundDiv]
  generalize num / den = q at *
  generalize num % den = r at *
  obtain ⟨k, rfl⟩ : ∃ k, m = k + 1 := Nat.exists_eq_add_one.mpr hm
  have hhalf : (2 * (k + 1) - 1) * den = 2 * (den * k) + den := by
    rw [show 2 * (k + 1) - 1 = 2 * k + 1 by omega, Nat.add_mul, Nat.one_mul, Nat.mul_assoc,
      Nat.mul_comm k]
  rw [hhalf, ← hdivision]
  rcases Nat.lt_trichotomy q k with hless | rfl | hmore
  · have hstep : den * q + den ≤ den * k := by
      rw [← Nat.mul_succ]
      exact Nat.mul_le_mul_left _ hless
    split_ifs <;> omega
  · split_ifs <;> omega
  · have hstep : den * k + den ≤ den * q := by
      rw [← Nat.mul_succ]
      exact Nat.mul_le_mul_left _ hmore
    split_ifs <;> omega

/-- In the scale of its highest bit a number has 53 bits, and no more in the least scale. -/
theorem scale_bounds {total scale : Nat} (h : scale = total.log2 - 52) :
    total < 2 ^ (scale + 53) ∧ (0 < scale → 2 ^ (scale + 52) ≤ total) := by
  constructor
  · exact Nat.lt_of_lt_of_le Nat.lt_log2_self (Nat.pow_le_pow_right (by decide) (by omega))
  · intro hpos
    have hne : total ≠ 0 := by
      rintro rfl
      rw [Nat.log2_zero] at h
      omega
    rw [show scale + 52 = total.log2 by omega]
    exact Nat.log2_self_le hne

theorem lt_mul_iff_units {k : Nat} : num < k * den ↔ num * 2 ^ 1074 < k * 2 ^ 1074 * den := by
  rw [Nat.mul_right_comm, Nat.mul_lt_mul_right (Nat.two_pow_pos 1074)]

/-- The nearest magnitude is finite just if the quotient is below the bound. Only in the scale of
the greatest numbers does that depend on rounding. -/
theorem nearestMagnitude_finite_iff (hden : 0 < den) :
    nearestMagnitude num den < 0x7FF0000000000000 ↔ num < overflow * den := by
  obtain ⟨total, htotal⟩ : ∃ total, total = num * 2 ^ 1074 := ⟨_, rfl⟩
  obtain ⟨scale, hscale⟩ : ∃ scale, scale = (total / den).log2 - 52 := ⟨_, rfl⟩
  have hmagnitude :
      nearestMagnitude num den = roundDiv total (den * 2 ^ scale) + scale * 2 ^ 52 := by
    rw [nearestMagnitude, ← htotal, ← hscale]
  have hround := roundDiv_bounds total (den * 2 ^ scale)
  rw [← Nat.div_div_eq_div_mul] at hround
  obtain ⟨hhigh, hlow⟩ := scale_bounds hscale
  obtain ⟨hbelow, habove, hend⟩ := overflow_units_bounds
  rw [hmagnitude, lt_mul_iff_units, ← htotal]
  generalize overflow * 2 ^ 1074 = bound at *
  rcases Nat.lt_trichotomy scale 2045 with hsmall | rfl | hlarge
  · have hquotient : total / den / 2 ^ scale < 2 ^ 53 := by
      rwa [Nat.div_lt_iff_lt_mul (Nat.two_pow_pos scale), ← Nat.pow_add, Nat.add_comm 53]
    refine iff_of_true (by omega) ?_
    exact (Nat.div_lt_iff_lt_mul hden).mp (Nat.lt_of_lt_of_le hhigh (hbelow scale hsmall))
  · have hhalf : roundDiv total (den * 2 ^ 2045) < 2 ^ 53 ↔
        2 * total < (2 * 2 ^ 53 - 1) * (den * 2 ^ 2045) :=
      roundDiv_lt_iff (Nat.mul_pos hden (Nat.two_pow_pos 2045)) (by decide) (by decide)
    have hdouble : (2 * 2 ^ 53 - 1) * (den * 2 ^ 2045) = 2 * (bound * den) := by
      rw [Nat.mul_left_comm, hend, Nat.mul_left_comm, Nat.mul_comm den]
    rw [hdouble, Nat.mul_lt_mul_left (by decide)] at hhalf
    rw [← hhalf]
    omega
  · have hquotient : 2 ^ 52 ≤ total / den / 2 ^ scale := by
      rw [Nat.le_div_iff_mul_le (Nat.two_pow_pos scale), ← Nat.pow_add, Nat.add_comm 52]
      exact hlow (by omega)
    refine iff_of_false (by omega) (Nat.not_lt.mpr ?_)
    have hlarger := Nat.le_trans (habove scale hlarge) (hlow (by omega))
    exact (Nat.le_div_iff_mul_le hden).mp hlarger

theorem ofMagnitude?_eq_none_iff {negative : Bool} {magnitude : Nat} :
    ofMagnitude? negative magnitude = none ↔ ¬ magnitude < 0x7FF0000000000000 := by
  rw [ofMagnitude?]
  split_ifs with h
  · exact iff_of_false not_false (not_not_intro h)
  · exact iff_of_true rfl h

theorem nearest?_eq_none_iff {negative : Bool} (hden : 0 < den) :
    nearest? negative num den = none ↔ overflow * den ≤ num := by
  rw [nearest?, ofMagnitude?_eq_none_iff, nearestMagnitude_finite_iff hden, Nat.not_lt]

theorem negative_of_ofMagnitude? {x : Binary64} {negative : Bool} {magnitude : Nat}
    (h : ofMagnitude? negative magnitude = some x) : x.negative = negative := by
  rw [ofMagnitude?] at h
  split_ifs at h
  cases h
  rfl

end Binary64

/-! ### Numerals that are too large -/

namespace Decimal

open Binary64 (overflow)

variable {d : Decimal} {cs ds : List Char}

/-- Reading digits after others multiplies by ten for each of them. -/
theorem foldl_digits_bounds (hds : ∀ c ∈ ds, isDigit c = true) (n : Nat) :
    n * 10 ^ ds.length ≤ ds.foldl (fun n d => 10 * n + digitValue d) n ∧
      ds.foldl (fun n d => 10 * n + digitValue d) n < (n + 1) * 10 ^ ds.length := by
  induction ds generalizing n with
  | nil => simp
  | cons c ds ih =>
    obtain ⟨hc, hds⟩ := List.forall_mem_cons.mp hds
    have hdigit : digitValue c ≤ 9 := by
      have hrange := toNat_of_isDigit hc
      have hvalue : digitValue c = c.toNat - 48 := rfl
      omega
    obtain ⟨hlow, hhigh⟩ := ih hds (10 * n + digitValue c)
    rw [List.foldl_cons, List.length_cons, Nat.pow_succ']
    constructor
    · refine Nat.le_trans ?_ hlow
      rw [← Nat.mul_assoc]
      exact Nat.mul_le_mul_right _ (by omega)
    · refine Nat.lt_of_lt_of_le hhigh ?_
      rw [← Nat.mul_assoc]
      exact Nat.mul_le_mul_right _ (by omega)

theorem natOfDigits_lt (hds : ∀ c ∈ ds, isDigit c = true) : natOfDigits ds < 10 ^ ds.length := by
  have hhigh := (foldl_digits_bounds hds 0).2
  rwa [Nat.zero_add, Nat.one_mul] at hhigh

/-- Digits that do not start with zero denote a number of that many digits. -/
theorem le_natOfDigits {c : Char} (hc : isDigit c = true) (hzero : c ≠ '0')
    (hds : ∀ c ∈ ds, isDigit c = true) : 10 ^ ds.length ≤ natOfDigits (c :: ds) := by
  have hpos : 1 ≤ digitValue c := by
    have hrange := toNat_of_isDigit hc
    have hvalue : digitValue c = c.toNat - 48 := rfl
    have hne : c.toNat ≠ 48 := fun h => hzero (Char.toNat_inj.mp h)
    omega
  have hlow := (foldl_digits_bounds hds (10 * 0 + digitValue c)).1
  rw [natOfDigits, List.foldl_cons]
  exact Nat.le_trans (Nat.le_mul_of_pos_left _ (by omega)) hlow

theorem natOfDigits_dropWhile_zero (ds : List Char) :
    natOfDigits (ds.dropWhile (· = '0')) = natOfDigits ds := by
  have hzeros : ds.takeWhile (· = '0') = List.replicate (ds.takeWhile (· = '0')).length '0' :=
    List.eq_replicate_of_mem fun c hc => by simpa using List.mem_takeWhile_imp hc
  calc natOfDigits (ds.dropWhile (· = '0'))
      = natOfDigits (ds.takeWhile (· = '0') ++ ds.dropWhile (· = '0')) := by
        rw [hzeros, natOfDigits_zeros_append]
    _ = natOfDigits ds := by rw [List.takeWhile_append_dropWhile]

/-- The exact value of a numeral without its sign. -/
def size (d : Decimal) : ℚ :=
  natOfDigits d.digits * 10 ^ d.exponent

/-- The digits of a numeral without the zeros in front. -/
def leading (d : Decimal) : List Char :=
  d.digits.dropWhile (· = '0')

theorem size_eq (d : Decimal) : d.size = natOfDigits d.leading * 10 ^ d.exponent := by
  rw [leading, natOfDigits_dropWhile_zero, size]

theorem isDigit_of_mem_leading (hdigits : ∀ c ∈ d.digits, isDigit c = true) :
    ∀ c ∈ d.leading, isDigit c = true :=
  fun c hc => hdigits c ((List.dropWhile_sublist _).mem hc)

theorem ten_zpow_pos (e : Int) : (0 : ℚ) < 10 ^ e :=
  zpow_pos (by norm_num) e

theorem ten_zpow_natCast (n : Nat) : (10 : ℚ) ^ (n : Int) = (10 ^ n : Nat) := by
  rw [zpow_natCast, Nat.cast_pow]
  rfl

theorem ten_zpow_add (e : Int) (n : Nat) : (10 : ℚ) ^ (e + n) = (10 ^ n : Nat) * 10 ^ e := by
  rw [zpow_add₀ (by norm_num), ten_zpow_natCast, mul_comm]

/-- A numeral lies below the power of ten that its length says, and not below the one before. -/
theorem size_lt (hdigits : ∀ c ∈ d.digits, isDigit c = true) :
    d.size < 10 ^ (d.exponent + d.leading.length) := by
  rw [size_eq, ten_zpow_add]
  refine mul_lt_mul_of_pos_right ?_ (ten_zpow_pos _)
  exact Nat.cast_lt.mpr (natOfDigits_lt (isDigit_of_mem_leading hdigits))

theorem le_size (hdigits : ∀ c ∈ d.digits, isDigit c = true) (hne : d.leading ≠ []) :
    10 ^ (d.exponent + d.leading.length - 1) ≤ d.size := by
  have hleading := isDigit_of_mem_leading hdigits
  have hhead : d.leading.head hne ≠ '0' :=
    of_decide_eq_false (List.head_dropWhile_not (· = '0') hne)
  obtain ⟨c, ds, hcons⟩ := List.exists_cons_of_ne_nil hne
  simp only [hcons, List.head_cons] at hhead hleading
  obtain ⟨hc, hds⟩ := List.forall_mem_cons.mp hleading
  rw [size_eq, hcons, List.length_cons, Nat.cast_add_one, ← add_assoc, add_sub_cancel_right,
    ten_zpow_add]
  refine mul_le_mul_of_nonneg_right ?_ (ten_zpow_pos _).le
  exact Nat.cast_le.mpr (le_natOfDigits hc hhead hds)

theorem overflow_bounds : 1 ≤ overflow ∧ overflow ≤ 10 ^ 309 := by
  decide +kernel

/-- A numeral gives no number just if its size is at least the bound. -/
theorem toBinary64?_eq_none_iff (hdigits : ∀ c ∈ d.digits, isDigit c = true) :
    d.toBinary64? = none ↔ overflow ≤ d.size := by
  have hzero : Binary64.ofMagnitude? d.negative 0 ≠ none := by
    rw [ne_eq, Binary64.ofMagnitude?_eq_none_iff]
    decide
  obtain ⟨hone, hten⟩ := overflow_bounds
  rw [toBinary64?, ← leading]
  split_ifs with hsmall hlarge
  · refine iff_of_false hzero (not_le.mpr ?_)
    rw [Bool.or_eq_true, List.isEmpty_iff, decide_eq_true_iff] at hsmall
    have hbelow : d.size < 1 := by
      rcases hsmall with hnil | hsmall
      · rw [size_eq, hnil]
        simp [natOfDigits]
      · exact (size_lt hdigits).trans_le (zpow_le_one_of_nonpos₀ (by norm_num) (by omega))
    exact hbelow.trans_le (Nat.one_le_cast.mpr hone)
  · rw [Bool.or_eq_true, List.isEmpty_iff, decide_eq_true_iff, not_or] at hsmall
    refine iff_of_true rfl ?_
    calc (overflow : ℚ) ≤ (10 ^ 309 : Nat) := Nat.cast_le.mpr hten
      _ = 10 ^ ((309 : Nat) : Int) := (ten_zpow_natCast 309).symm
      _ ≤ 10 ^ (d.exponent + d.leading.length - 1) :=
        zpow_le_zpow_right₀ (by norm_num) (by omega)
      _ ≤ d.size := le_size hdigits hsmall.1
  · have hpow : 0 < 10 ^ (-d.exponent).toNat := Nat.pow_pos (by decide)
    have hpos : (0 : ℚ) < (10 ^ (-d.exponent).toNat : Nat) := Nat.cast_pos.mpr hpow
    have hsize : d.size * (10 ^ (-d.exponent).toNat : Nat) =
        (natOfDigits d.leading * 10 ^ d.exponent.toNat : Nat) := by
      have hvalue := ShortDecimal.value_mul_pow ⟨natOfDigits d.leading, d.exponent⟩
      rw [ShortDecimal.value, ← size_eq] at hvalue
      push_cast
      exact hvalue
    rw [Binary64.nearest?_eq_none_iff hpow, ← mul_le_mul_iff_left₀ hpos, hsize, ← Nat.cast_mul,
      Nat.cast_le]

/-! ### Numerals as they are written -/

theorem negative_of_toBinary64? {x : Binary64} (h : d.toBinary64? = some x) :
    x.negative = d.negative := by
  rw [toBinary64?] at h
  split_ifs at h
  · exact Binary64.negative_of_ofMagnitude? h
  · exact Binary64.negative_of_ofMagnitude? h

theorem takeSign_minus (h : (takeSign cs).1 = true) : '-' ∈ cs := by
  rw [takeSign.eq_def] at h
  split at h
  · cases h
  · exact List.mem_cons_self
  · cases h

theorem takeSign_sublist (cs : List Char) : (takeSign cs).2.Sublist cs := by
  rw [takeSign.eq_def]
  split
  · exact List.sublist_cons_self _ _
  · exact List.sublist_cons_self _ _
  · exact List.Sublist.refl _

theorem mem_takeFraction {c : Char} (hc : c ∈ (takeFraction cs).1) : isDigit c = true ∧ c ∈ cs := by
  rw [takeFraction.eq_def] at hc
  split at hc
  · exact ⟨List.mem_takeWhile_imp hc, List.mem_cons_of_mem _ ((List.takeWhile_sublist _).mem hc)⟩
  · cases hc

/-- A text spells no numeral without a digit, nor a negative one without a minus sign. -/
theorem fields_of_ofText? (h : ofText? cs = some d) :
    d.negative = (takeSign cs).1 ∧ d.digits ≠ [] ∧ ∀ c ∈ d.digits, isDigit c = true ∧ c ∈ cs := by
  rw [ofText?] at h
  dsimp only at h
  split_ifs at h with hdigits
  obtain ⟨e, -, rfl⟩ := Option.map_eq_some_iff.mp h
  rw [Bool.and_eq_true, List.isEmpty_iff, List.isEmpty_iff, ← List.append_eq_nil_iff] at hdigits
  refine ⟨rfl, hdigits, fun c hc => ?_⟩
  rcases List.mem_append.mp hc with hwhole | hfraction
  · exact ⟨List.mem_takeWhile_imp hwhole,
      (takeSign_sublist cs).mem ((List.takeWhile_sublist _).mem hwhole)⟩
  · obtain ⟨hdigit, hmem⟩ := mem_takeFraction hfraction
    exact ⟨hdigit, (takeSign_sublist cs).mem ((List.dropWhile_sublist _).mem hmem)⟩

end Decimal

variable {s : String}

/-- A text gives no number just if it spells no numeral of a size below the bound. -/
theorem numberOfText?_eq_none_iff : numberOfText? s = none ↔
    ∀ d, Decimal.ofText? (Text.trim s.toList) = some d → Binary64.overflow ≤ d.size := by
  rw [numberOfText?, Option.bind_eq_none_iff]
  refine forall₂_congr fun d hd => Decimal.toBinary64?_eq_none_iff fun c hc => ?_
  exact ((Decimal.fields_of_ofText? hd).2.2 c hc).1

theorem not_negative_of_numberOfText? {x : Binary64} (h : numberOfText? s = some x)
    (hminus : '-' ∉ s.toList) : x.negative = false := by
  obtain ⟨d, hd, hx⟩ := Option.bind_eq_some_iff.mp h
  rw [Decimal.negative_of_toBinary64? hx, (Decimal.fields_of_ofText? hd).1, Bool.eq_false_iff]
  exact fun hsign => hminus ((Text.trim_sublist _).mem (Decimal.takeSign_minus hsign))

end Entitlement
