import Entitlement.Text.Basic
import Entitlement.Text.Lower
import Mathlib.Data.List.Basic

/-!
# Lower case of plain words

Only two characters outside ASCII have an ASCII character in their lower case: the Kelvin sign
becomes a `k`, and the dotted capital I becomes an `i` and a dot, which is outside ASCII. So a word
of ASCII characters other than `k` is the lower case of those texts only that it equals but for the
case of ASCII letters. Blanks have no case, and trimming leaves case alone.
-/

namespace Entitlement.Text

variable {c : Char} {cs w before : List Char}

/-! ### Single characters -/

/-- ASCII capitals move by 32 and everything else stays. -/
theorem toLower_cases (c : Char) :
    (0x41 ≤ c.toNat ∧ c.toNat ≤ 0x5A ∧ c.toLower.toNat = c.toNat + 32) ∨ c.toLower = c := by
  by_cases h : c.val ≥ 'A'.val ∧ c.val ≤ 'Z'.val
  · have hlow : 0x41 ≤ c.toNat := UInt32.le_iff_toNat_le.mp h.1
    have hhigh : c.toNat ≤ 0x5A := UInt32.le_iff_toNat_le.mp h.2
    have hlower : c.toLower.val = c.val + ('a'.val - 'A'.val) := congrArg Char.val (dif_pos h)
    have hsum : (c.val + ('a'.val - 'A'.val)).toNat = (c.toNat + 32) % 2 ^ 32 :=
      UInt32.toNat_add _ _
    rw [Nat.mod_eq_of_lt (by omega)] at hsum
    exact Or.inl ⟨hlow, hhigh, (congrArg UInt32.toNat hlower).trans hsum⟩
  · exact Or.inr (dif_neg h)

theorem toLower_isAscii_iff : c.toLower.toNat < 0x80 ↔ c.toNat < 0x80 := by
  rcases toLower_cases c with ⟨hlow, hhigh, heq⟩ | heq
  · omega
  · rw [heq]

theorem isBlank_toLower (c : Char) : isBlank c.toLower = isBlank c := by
  rcases toLower_cases c with ⟨hlow, hhigh, heq⟩ | heq
  · have hletter (n : Nat) (hn : 0x41 ≤ n ∧ n ≤ 0x7A) (d : Char) (hd : d.toNat = n) :
        isBlank d = false := by
      simp only [isBlank, hd, Bool.or_eq_false_iff, Bool.and_eq_false_iff, beq_eq_false_iff_ne,
        decide_eq_false_iff_not]
      omega
    rw [hletter _ ⟨hlow, by omega⟩ c rfl, hletter _ ⟨by omega, by omega⟩ _ heq]
  · rw [heq]

/-- An ASCII character that is the lower case of no character outside ASCII. -/
def IsPlain (d : Char) : Prop :=
  d.toNat < 0x80 ∧ d ≠ 'k'

/-- A run of capitals outside ASCII is the Kelvin sign, or its lower cases lie outside ASCII. -/
theorem image_of_mem_capitalRuns : ∀ r ∈ capitalRuns,
    r.last < 0x80 ∨ (r.first = 0x212A ∧ r.last = 0x212A ∧ r.image = 0x6B) ∨
      (0x80 ≤ r.image ∧ r.image + (r.last - r.first) < 0xD800) ∨
      (0xDFFF < r.image ∧ r.image + (r.last - r.first) < 0x110000) := by
  decide +kernel

theorem toNat_ofNat_of_isValidChar {n : Nat} (h : n.isValidChar) : (Char.ofNat n).toNat = n := by
  rw [Char.ofNat, dif_pos h]
  rfl

theorem exists_not_isPlain_of_not_ascii (h : 0x80 ≤ c.toNat) :
    ∃ d ∈ lowerChar c, ¬ IsPlain d := by
  rw [lowerChar, if_neg (Nat.not_lt.mpr h)]
  split_ifs with hdotted
  · exact ⟨'\u0307', by decide, fun hplain => absurd hplain.1 (by decide)⟩
  cases hrun : capitalRuns.find? (·.contains c.toNat) with
  | none => exact ⟨c, List.mem_singleton_self c, fun hplain => absurd hplain.1 (Nat.not_lt.mpr h)⟩
  | some r =>
    refine ⟨_, List.mem_singleton_self _, ?_⟩
    have hcontains := List.find?_some hrun
    simp only [CapitalRun.contains, Bool.and_eq_true, decide_eq_true_iff] at hcontains
    obtain ⟨⟨hfirst, hlast⟩, -⟩ := hcontains
    rcases image_of_mem_capitalRuns r (List.mem_of_find?_eq_some hrun) with
      hascii | ⟨hkelvin, hsame, himage⟩ | ⟨himage, hend⟩ | ⟨himage, hend⟩
    · omega
    · have hc : c.toNat - r.first = 0 := by omega
      rw [hc, himage]
      exact fun hplain => hplain.2 rfl
    · rintro ⟨hlt, -⟩
      rw [toNat_ofNat_of_isValidChar (Or.inl (by omega))] at hlt
      omega
    · rintro ⟨hlt, -⟩
      rw [toNat_ofNat_of_isValidChar (Or.inr ⟨by omega, by omega⟩)] at hlt
      omega

/-! ### Texts -/

/-- An ASCII text has no letter whose lower case depends on its place. -/
theorem lowerAfter_of_ascii (h : ∀ d ∈ cs, d.toNat < 0x80) :
    lowerAfter before cs = cs.map Char.toLower := by
  induction cs generalizing before with
  | nil => rfl
  | cons c cs ih =>
    have hc : c.toNat < 0x80 := h c List.mem_cons_self
    have hsigma : c ≠ 'Σ' := by
      rintro rfl
      exact absurd hc (by decide)
    rw [lowerAfter, if_neg hsigma, lowerChar, if_pos hc,
      ih fun d hd => h d (List.mem_cons_of_mem c hd)]
    rfl

theorem lowered_eq_self {s : String} (h : ∀ d ∈ s.toList, d.toNat < 0x80 ∧ d.toLower = d) :
    lowered s = s := by
  have hmap : s.toList.map Char.toLower = s.toList :=
    (List.map_congr_left fun d hd => (h d hd).2).trans (List.map_id _)
  rw [lowered, lower, lowerAfter_of_ascii fun d hd => (h d hd).1, hmap, String.ofList_toList]

/-- The pieces of a lower case that has plain characters only come from ASCII characters. -/
theorem ascii_of_isPlain_lowerAfter (h : ∀ d ∈ lowerAfter before cs, IsPlain d) :
    ∀ d ∈ cs, d.toNat < 0x80 := by
  induction cs generalizing before with
  | nil => exact fun d hd => absurd hd List.not_mem_nil
  | cons c cs ih =>
    rw [lowerAfter] at h
    have hrest := ih fun d hd => h d (List.mem_append_right _ hd)
    have hc : c.toNat < 0x80 := by
      by_contra hout
      split_ifs at h with hsigma hfinal
      · exact absurd (h 'ς' List.mem_cons_self).1 (by decide)
      · exact absurd (h 'σ' List.mem_cons_self).1 (by decide)
      · obtain ⟨d, hd, hnot⟩ := exists_not_isPlain_of_not_ascii (Nat.not_lt.mp hout)
        exact hnot (h d (List.mem_append_left _ hd))
    exact List.forall_mem_cons.mpr ⟨hc, hrest⟩

/-- For a plain word, lower case and equality but for ASCII case are the same. -/
theorem lower_eq_iff (hw : ∀ d ∈ w, IsPlain d) : lower cs = w ↔ cs.map Char.toLower = w := by
  constructor
  · rintro rfl
    exact (lowerAfter_of_ascii (ascii_of_isPlain_lowerAfter hw)).symm
  · rintro rfl
    refine lowerAfter_of_ascii fun d hd => ?_
    exact toLower_isAscii_iff.mp (hw _ (List.mem_map_of_mem hd)).1

/-- An ASCII character that comes before all letters, as digits and the marks in numbers do. -/
def IsCaseless (d : Char) : Prop :=
  d.toNat < 0x41

theorem toLower_of_isCaseless (h : IsCaseless c.toLower) : c.toLower = c := by
  rw [IsCaseless] at h
  rcases toLower_cases c with ⟨hlow, -, heq⟩ | heq
  · omega
  · exact heq

theorem lower_of_isCaseless (h : IsCaseless c) : c.toNat < 0x80 ∧ c.toLower = c := by
  rw [IsCaseless] at h
  rcases toLower_cases c with ⟨hlow, -, -⟩ | heq
  · omega
  · exact ⟨by omega, heq⟩

theorem lowered_of_isCaseless {s : String} (h : ∀ d ∈ s.toList, IsCaseless d) : lowered s = s :=
  lowered_eq_self fun d hd => lower_of_isCaseless (h d hd)

/-- Only a text itself has a caseless lower case. -/
theorem lowered_of_isCaseless_lowered {s : String} (h : ∀ d ∈ (lowered s).toList, IsCaseless d) :
    lowered s = s := by
  rw [lowered, String.toList_ofList] at h
  have hplain : ∀ d ∈ lowerAfter [] s.toList, IsPlain d := by
    intro d hd
    have hlow : d.toNat < 0x41 := h d hd
    refine ⟨by omega, ?_⟩
    rintro rfl
    exact absurd hlow (by decide)
  have hascii := ascii_of_isPlain_lowerAfter hplain
  rw [lower, lowerAfter_of_ascii hascii] at h
  exact lowered_eq_self fun d hd =>
    ⟨hascii d hd, toLower_of_isCaseless (h _ (List.mem_map_of_mem hd))⟩

theorem lowered_eq_iff_of_isCaseless {s t : String} (ht : ∀ d ∈ t.toList, IsCaseless d) :
    lowered s = t ↔ s = t := by
  constructor
  · rintro rfl
    exact (lowered_of_isCaseless_lowered ht).symm
  · rintro rfl
    exact lowered_of_isCaseless ht

theorem lowered_isInfix_iff_of_isCaseless {s t : String} (ht : ∀ d ∈ t.toList, IsCaseless d) :
    (lowered s).toList <:+: t.toList ↔ s.toList <:+: t.toList := by
  refine ⟨fun h => ?_, fun h => ?_⟩
  · rwa [lowered_of_isCaseless_lowered fun d hd => ht d (h.subset hd)] at h
  · rwa [lowered_of_isCaseless fun d hd => ht d (h.subset hd)]

/-! ### Trimming -/

theorem trim_map_toLower (cs : List Char) :
    trim (cs.map Char.toLower) = (trim cs).map Char.toLower := by
  have hblank : isBlank ∘ Char.toLower = isBlank := funext isBlank_toLower
  simp only [trim, trimEnd, trimStart, List.dropWhile_map, hblank, ← List.map_reverse]

theorem trim_sublist (cs : List Char) : (trim cs).Sublist cs := by
  have hstart : (trimStart cs).Sublist cs := List.dropWhile_sublist _
  have hend : (trimEnd (trimStart cs)).Sublist (trimStart cs) :=
    List.reverse_sublist.mp (by
      rw [trimEnd, List.reverse_reverse]
      exact List.dropWhile_sublist _)
  exact hend.trans hstart

/-- Whether a text has blanks around it can be seen without regard to case. -/
theorem trim_eq_self_iff_map_toLower :
    trim (cs.map Char.toLower) = cs.map Char.toLower ↔ trim cs = cs := by
  rw [trim_map_toLower]
  refine ⟨fun h => (trim_sublist cs).eq_of_length ?_, fun h => by rw [h]⟩
  have hlength := congrArg List.length h
  rwa [List.length_map, List.length_map] at hlength

end Entitlement.Text
