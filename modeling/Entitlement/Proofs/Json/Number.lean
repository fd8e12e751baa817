import Entitlement.Proofs.Json.Token
import Entitlement.Proofs.Number.Integer
import Entitlement.Proofs.Number.Text

/-!
# Numbers in JSON and as they are shown

JSON writes a number in its own way, and a profile shows the nearest binary64 number in plain form.
The two texts are the same for an integer all of whose digits are shown, as are those of all
integers below 2^53, and for a fraction that JSON writes without a power of ten and with the same
digits. They differ for every integral value that JSON writes with a point.
-/

namespace Entitlement.Json

/-! ### Integers -/

theorem gather_lt (ds : List Char) {n : Nat} (hn : n < 2 ^ 64) : (gather n ds).1 < 2 ^ 64 := by
  induction ds generalizing n with
  | nil => exact hn
  | cons d ds ih =>
    rw [gather]
    split_ifs with hnext
    · exact ih hnext
    · exact hn

/-- The integers that numerals denote have at most 64 bits. -/
theorem natAbs_lt_of_toNumber? {t : Numeral} {k : Int} (h : t.toNumber? = some (.integer k)) :
    k.natAbs < 2 ^ 64 := by
  have hlt := gather_lt t.whole (Nat.two_pow_pos 64)
  rw [Numeral.toNumber?] at h
  dsimp only at h
  split_ifs at h with hwhole hnegative
  · cases h
    rwa [Int.natAbs_neg, Int.natAbs_natCast]
  · cases h
    rwa [Int.natAbs_natCast]
  · rw [Option.map_eq_some_iff] at h
    obtain ⟨_, _, h⟩ := h
    cases h

namespace Number

/-- Holds of an integer whose digits are those shown for the nearest number, and of a fraction of
0.00001 or more in size for which JSON has the digits that are shown. -/
def WrittenAsShown : Number → Prop
  | .integer k =>
    let d := (Number.integer k).toBinary64.shortest .upward
    d.digits * 10 ^ d.exponent.toNat = k.natAbs
  | .real x =>
    ¬ 2 ^ 1074 ∣ x.units ∧ 2 ^ 1074 ≤ 10 ^ 5 * x.units ∧ x.shortest .toEven = x.shortest .upward

theorem toDigits_inj {n m : Nat} : Nat.toDigits 10 n = Nat.toDigits 10 m ↔ n = m := by
  refine ⟨fun h => ?_, fun h => h ▸ rfl⟩
  rw [← Decimal.natOfDigits_toDigits n, h, Decimal.natOfDigits_toDigits]

theorem toBinary64_zero : (Number.integer 0).toBinary64 = .zero := by
  decide +kernel

theorem writtenAsShown_zero : (Number.integer 0).WrittenAsShown := by
  rw [WrittenAsShown, toBinary64_zero]
  decide +kernel

theorem text_integer_eq_plainText_iff {k : Int} (hbound : k.natAbs < 2 ^ 64) :
    (Number.integer k).text = (Number.integer k).toBinary64.plainText ↔
      (Number.integer k).WrittenAsShown := by
  rcases eq_or_ne k 0 with rfl | hk
  · rw [toBinary64_zero]
    exact iff_of_true rfl writtenAsShown_zero
  · obtain ⟨x, hx, hnegative, hpos, hinteger, -⟩ := Binary64.exists_ofInt? hk hbound
    have hnearest : (Number.integer k).toBinary64 = x := by
      rw [toBinary64, hx, Option.getD_some]
    have hsign : x.signText = if k < 0 then ['-'] else [] := by
      simp only [Binary64.signText, hnegative, decide_eq_true_iff]
    rw [WrittenAsShown, hnearest, Binary64.plainText_of_integer hpos hinteger, ← String.toList_inj,
      text_integer, String.toList_ofList, hsign, List.append_cancel_left_eq, toDigits_inj, eq_comm]

/-- A number that was read is written in JSON as it is shown in these cases only. -/
theorem text_eq_plainText_iff {t : Numeral} {n : Number} (ht : t.toNumber? = some n) :
    n.text = n.toBinary64.plainText ↔ n.WrittenAsShown := by
  cases n with
  | integer k => exact text_integer_eq_plainText_iff (natAbs_lt_of_toNumber? ht)
  | real x => exact x.jsonText_eq_plainText_iff

/-- Integers below 2^53 are numbers themselves, and all of their digits are shown. -/
theorem writtenAsShown_of_lt {k : Int} (hk : k.natAbs < 2 ^ 53) :
    (Number.integer k).WrittenAsShown := by
  rcases eq_or_ne k 0 with rfl | hne
  · exact writtenAsShown_zero
  · obtain ⟨x, hx, -, hpos, hinteger, hsmall⟩ := Binary64.exists_ofInt? hne (by omega)
    obtain ⟨hunits, hscale⟩ := hsmall hk
    have hshown := Binary64.units_eq_of_exponent_nonneg .upward hpos hscale
      (Binary64.exponent_shortest_nonneg .upward hpos hinteger)
    rw [WrittenAsShown, toBinary64, hx, Option.getD_some]
    exact Nat.eq_of_mul_eq_mul_right (Nat.two_pow_pos 1074) (hshown.trans hunits)

theorem lowered_text (n : Number) : Text.lowered n.text = n.text := by
  cases n with
  | integer k =>
    refine Text.lowered_eq_self fun c hc => Binary64.lower_of_isNumeric ?_
    rw [text_integer, List.mem_append] at hc
    rcases hc with hsign | hdigit
    · split_ifs at hsign
      · exact Or.inr (by rw [List.mem_singleton.mp hsign]; decide)
      · cases hsign
    · exact Or.inl (Decimal.isDigit_of_mem_toDigits hdigit)
  | real x => exact x.lowered_jsonText

end Number

end Entitlement.Json
