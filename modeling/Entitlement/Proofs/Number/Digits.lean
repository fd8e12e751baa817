import Entitlement.Number.Decimal
import Mathlib.Data.List.TakeWhile

/-!
# Decimal digits

The digits of a natural number are read as that number, with any zeros in front, and they are taken
as a whole from a text in which no digit follows them.
-/

namespace Entitlement.Decimal

theorem isDigit_iff {c : Char} : isDigit c = true ↔ c.isDigit = true := by
  simp only [isDigit, Char.isDigit, Bool.and_eq_true, decide_eq_true_eq]
  exact Iff.rfl

theorem toNat_of_isDigit {c : Char} (h : isDigit c = true) : 48 ≤ c.toNat ∧ c.toNat ≤ 57 := by
  obtain ⟨hlow, hhigh⟩ := Bool.and_eq_true_iff.mp h
  exact ⟨of_decide_eq_true hlow, of_decide_eq_true hhigh⟩

theorem natOfDigits_eq (ds : List Char) : natOfDigits ds = Nat.ofDigitChars 10 ds 0 :=
  Nat.ofDigitChars_eq_foldl.symm

@[simp] theorem natOfDigits_toDigits (n : Nat) : natOfDigits (Nat.toDigits 10 n) = n := by
  rw [natOfDigits_eq, Nat.ofDigitChars_ten_toDigits]

theorem natOfDigits_zeros_append (k : Nat) (ds : List Char) :
    natOfDigits (List.replicate k '0' ++ ds) = natOfDigits ds := by
  rw [natOfDigits_eq, natOfDigits_eq, Nat.ofDigitChars_append, Nat.ofDigitChars_replicate_zero,
    Nat.mul_zero]

theorem isDigit_of_mem_toDigits {n : Nat} {c : Char} (hc : c ∈ Nat.toDigits 10 n) :
    isDigit c = true :=
  isDigit_iff.mpr (Nat.isDigit_of_mem_toDigits (by decide) (by decide) hc)

/-- The digits of a positive number are as many as the power of ten above it says. -/
theorem length_toDigits_bounds {n : Nat} (hn : 0 < n) :
    10 ^ ((Nat.toDigits 10 n).length - 1) ≤ n ∧ n < 10 ^ (Nat.toDigits 10 n).length := by
  obtain ⟨k, hk⟩ := Nat.exists_eq_add_one.mpr (Nat.length_toDigits_pos (b := 10) (n := n))
  rw [hk, Nat.add_sub_cancel]
  refine ⟨?_, (Nat.length_toDigits_le_iff (by decide) (Nat.succ_pos k)).mp (Nat.le_of_eq hk)⟩
  rcases Nat.eq_zero_or_pos k with rfl | hpos
  · exact hn
  · by_contra hless
    have hshort := (Nat.length_toDigits_le_iff (by decide) hpos).mpr (Nat.not_le.mp hless)
    omega

/-- Only the number zero is written with a zero in front. -/
theorem head_toDigits_ne_zero {n : Nat} (hn : 0 < n) : (Nat.toDigits 10 n).head? ≠ some '0' := by
  induction n using Nat.strongRecOn with
  | ind n ih =>
    rcases Nat.lt_or_ge n 10 with hsmall | hlarge
    · rw [Nat.toDigits_of_lt_base hsmall]
      simpa using Nat.ne_of_gt hn
    · have hsome : (Nat.toDigits 10 (n / 10)).head?.isSome = true :=
        List.isSome_head?.mpr Nat.toDigits_ne_nil
      rw [Nat.toDigits_of_base_le (by decide) hlarge, List.head?_append, Option.or_of_isSome hsome]
      exact ih (n / 10) (Nat.div_lt_self hn (by decide)) (Nat.div_pos hlarge (by decide))

theorem toDigits_ne_zero_cons (n : Nat) (d : Char) (ds : List Char) :
    Nat.toDigits 10 n ≠ '0' :: d :: ds := by
  intro h
  rcases Nat.eq_zero_or_pos n with rfl | hn
  · cases h
  · exact head_toDigits_ne_zero hn (by rw [h]; rfl)

/-- Holds of a text that does not start with a digit. -/
def NoDigitAhead (cs : List Char) : Prop :=
  ∀ c ∈ cs.head?, isDigit c = false

theorem takeWhile_isDigit_append {ds rest : List Char} (hds : ∀ c ∈ ds, isDigit c = true)
    (hrest : NoDigitAhead rest) : (ds ++ rest).takeWhile isDigit = ds := by
  rw [List.takeWhile_append_of_pos hds]
  cases rest with
  | nil => simp
  | cons c cs => simp [hrest c rfl]

end Entitlement.Decimal
