import Entitlement.Text.Symbols
import Mathlib.Order.Basic

/-!
# The bytes of a text

A text is read back from its bytes, each character from its own, whatever follows them. And ids
ascend by the bytes of their UTF-8 form: the encoding keeps the order of characters, so this is also
the order of texts by their characters, which is the one that lists are sorted by.
-/

namespace Entitlement.Text

/-! ### Reading back -/

theorem toNat_byte {n : Nat} (h : n < 0x100) : (UInt8.ofNat n).toNat = n := by
  rw [UInt8.toNat_ofNat', Nat.mod_eq_of_lt h]

theorem continuation?_byte {x : Nat} (h : x < 0x40) :
    continuation? (UInt8.ofNat (x + 0x80)) = some x := by
  rw [continuation?, toNat_byte (by omega), if_pos (by omega), Nat.add_sub_cancel]

/-- A character is read back from its bytes, whatever follows them. -/
theorem leadingChar?_encode (c : Char) (rest : List UInt8) :
    ∃ b bs, String.utf8EncodeChar c = b :: bs ∧
      leadingChar? b (bs ++ rest) = some (c, bs.length) := by
  have hvalid : c.toNat < 0xD800 ∨ 0xDFFF < c.toNat ∧ c.toNat < 0x110000 := c.valid
  have hlow (n : Nat) : n % 0x40 < 0x40 := Nat.mod_lt n (by decide)
  rw [String.utf8EncodeChar, Char.toNat_val]
  -- one case for each number of bytes
  split_ifs with h₁ h₂ h₃ <;> refine ⟨_, _, rfl, ?_⟩ <;> unfold leadingChar? <;>
    rw [toNat_byte (by omega)]
  · rw [if_pos (by omega), Char.ofNat_toNat]
    rfl
  · have hcode : (c.toNat / 64 % 0x20 + 0xC0 - 0xC0) * 0x40 + c.toNat % 0x40 = c.toNat := by
      omega
    simp only [List.cons_append, continuation?_byte (hlow _), Option.bind_eq_bind,
      Option.bind_some, hcode, Char.ofNat_toNat, List.length_cons, List.length_nil]
    rw [if_neg (by omega), if_pos (by omega)]
  · have hcode : ((c.toNat / 4096 % 0x10 + 0xE0 - 0xE0) * 0x40 + c.toNat / 64 % 0x40) * 0x40 +
        c.toNat % 0x40 = c.toNat := by
      omega
    simp only [List.cons_append, continuation?_byte (hlow _), Option.bind_eq_bind,
      Option.bind_some, hcode, Char.ofNat_toNat, List.length_cons, List.length_nil]
    rw [if_neg (by omega), if_neg (by omega), if_pos (by omega), if_pos (by omega)]
  · have hcode : (((c.toNat / 262144 % 0x08 + 0xF0 - 0xF0) * 0x40 + c.toNat / 4096 % 0x40) * 0x40 +
        c.toNat / 64 % 0x40) * 0x40 + c.toNat % 0x40 = c.toNat := by
      omega
    simp only [List.cons_append, continuation?_byte (hlow _), Option.bind_eq_bind,
      Option.bind_some, hcode, Char.ofNat_toNat, List.length_cons, List.length_nil]
    rw [if_neg (by omega), if_neg (by omega), if_neg (by omega), if_pos (by omega),
      if_pos (by omega)]

theorem symbolsOfBytes_encode : ∀ cs : List Char,
    symbolsOfBytes (cs.flatMap String.utf8EncodeChar) = cs.map .char
  | [] => by simp [symbolsOfBytes]
  | c :: cs => by
    obtain ⟨b, bs, hbytes, hlead⟩ := leadingChar?_encode c (cs.flatMap String.utf8EncodeChar)
    rw [List.flatMap_cons, hbytes, List.cons_append, symbolsOfBytes, hlead]
    simp only [List.drop_left, symbolsOfBytes_encode cs, List.map_cons]

theorem symbolsOfBytes_bytes (s : String) : symbolsOfBytes (bytes s) = symbolsOfText s :=
  symbolsOfBytes_encode s.toList

/-! ### Order -/

/-- The bytes of a lesser character come first, whatever follows: no form begins another, and the
first byte in which two forms differ decides. -/
theorem encodeChar_lt {c d : Char} (h : c < d) (xs ys : List UInt8) :
    String.utf8EncodeChar c ++ xs < String.utf8EncodeChar d ++ ys := by
  have hv : c.val.toNat < d.val.toNat := h
  have hd : d.val.toNat < 0x110000 := by
    rcases d.valid with h | h
    · exact Nat.lt_trans h (by decide)
    · exact h.2
  unfold String.utf8EncodeChar
  dsimp only
  -- one goal for each pair of lengths; the bytes are numbers below 256, so nothing wraps
  split_ifs <;>
    simp (disch := omega) only [List.cons_append, List.nil_append, List.cons_lt_cons_iff,
      UInt8.lt_iff_toNat_lt, ← UInt8.toNat_inj, UInt8.toNat_ofNat', Nat.mod_eq_of_lt] <;>
    omega

theorem encode_lt : ∀ {cs ds : List Char}, cs < ds →
    cs.flatMap String.utf8EncodeChar < ds.flatMap String.utf8EncodeChar
  | _, [], h => by simp at h
  | [], d :: ds, _ => by
    obtain ⟨b, bs, hb⟩ := List.exists_cons_of_ne_nil (String.utf8EncodeChar_ne_nil (c := d))
    rw [List.flatMap_nil, List.flatMap_cons, hb]
    exact List.nil_lt_cons b _
  | c :: cs, d :: ds, h => by
    rw [List.flatMap_cons, List.flatMap_cons]
    rcases List.cons_lt_cons_iff.mp h with hcd | ⟨rfl, hrest⟩
    · exact encodeChar_lt hcd _ _
    · exact List.append_left_lt (encode_lt hrest)

/-- Of two different texts one comes first. -/
theorem lt_of_not_lt_of_ne {s t : String} (hst : ¬ s < t) (hne : s ≠ t) : t < s := by
  by_contra hts
  exact hne (String.le_antisymm (String.not_lt.mp hts) (String.not_lt.mp hst))

/-- Texts are ordered as their bytes are. -/
theorem bytes_lt_iff {s t : String} : bytes s < bytes t ↔ s < t := by
  constructor
  · intro h
    by_contra hst
    rcases eq_or_ne s t with rfl | hne
    · exact List.lt_irrefl _ h
    · exact List.lt_asymm h (encode_lt (lt_of_not_lt_of_ne hst hne))
  · exact fun h => encode_lt h

theorem bytes_le_of_le {s t : String} (h : s ≤ t) : bytes s ≤ bytes t :=
  fun hlt => String.not_lt.mpr h (bytes_lt_iff.mp hlt)

end Entitlement.Text
