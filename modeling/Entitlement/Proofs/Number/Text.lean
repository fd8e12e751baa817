import Entitlement.Number.Text
import Entitlement.Proofs.Number.Point
import Entitlement.Proofs.Text.Lower

/-!
# Numbers as text, plain and in JSON

Plain text shows an integer without a point and anything else with one. JSON text always has a point
or a power of ten. So the two forms of an integer differ, and those of a fraction are the same just
if JSON needs no power of ten and both have found the same digits.
-/

namespace Entitlement

open Decimal

/-! ### Texts with a point -/

/-- Holds of digits with a point among them that has the given number of digits behind it. Read
without the point they are the given number. -/
def Pointed (n places : Nat) (cs : List Char) : Prop :=
  ∃ whole fraction, cs = whole ++ '.' :: fraction ∧ (∀ c ∈ whole ++ fraction, isDigit c = true) ∧
    natOfDigits (whole ++ fraction) = n ∧ fraction.length = places

theorem Pointed.unique {n m k j : Nat} {cs : List Char} (h : Pointed n k cs)
    (h' : Pointed m j cs) : n = m ∧ k = j := by
  obtain ⟨whole, fraction, hcs, hdigits, rfl, rfl⟩ := h
  obtain ⟨whole', fraction', hcs', hdigits', rfl, rfl⟩ := h'
  have hpoint (ds : List Char) : NoDigitAhead ('.' :: ds) := by
    rintro c ⟨⟩
    decide
  have hwhole : whole = whole' := by
    rw [← takeWhile_isDigit_append (fun c hc => hdigits c (List.mem_append_left _ hc))
      (hpoint fraction), ← hcs, hcs',
      takeWhile_isDigit_append (fun c hc => hdigits' c (List.mem_append_left _ hc)) (hpoint _)]
  subst hwhole
  have hfraction := List.append_cancel_left (hcs.symm.trans hcs')
  cases hfraction
  exact ⟨rfl, rfl⟩

theorem Pointed.point_mem {n k : Nat} {cs : List Char} (h : Pointed n k cs) : '.' ∈ cs := by
  obtain ⟨whole, fraction, rfl, -, -, -⟩ := h
  exact List.mem_append_right _ List.mem_cons_self

theorem Pointed.not_mem_e {n k : Nat} {cs : List Char} (h : Pointed n k cs) : 'e' ∉ cs := by
  obtain ⟨whole, fraction, rfl, hdigits, -, -⟩ := h
  intro he
  have hdigit : isDigit 'e' = true := by
    refine hdigits 'e' ?_
    simpa using he
  exact absurd hdigit (by decide)

/-! ### Digits with a point or without -/

theorem toDigits_mul_pow {n : Nat} (hn : 0 < n) (k : Nat) :
    Nat.toDigits 10 (n * 10 ^ k) = Nat.toDigits 10 n ++ List.replicate k '0' := by
  induction k with
  | zero => simp
  | succ k ih =>
    have hpos : 0 < n * 10 ^ k := Nat.mul_pos hn (Nat.pow_pos (by decide))
    have hstep := Nat.toDigits_append_toDigits (by decide : 1 < 10) hpos (by decide : 0 < 10)
    rw [Nat.add_zero, ih, Nat.toDigits_zero] at hstep
    rw [Nat.pow_succ', Nat.mul_left_comm, ← hstep, List.replicate_succ', List.append_assoc]

namespace ShortDecimal

variable {d e : ShortDecimal}

/-- The decimal in plain form. -/
def plain (d : ShortDecimal) : List Char :=
  positional (Nat.toDigits 10 d.digits) d.point

/-- The decimal in JSON form. -/
def json (d : ShortDecimal) : List Char :=
  if d.point ≤ -5 || 16 < d.point then scientific (Nat.toDigits 10 d.digits) d.point
  else d.plain ++ if (Nat.toDigits 10 d.digits).length ≤ d.point then ['.', '0'] else []

theorem plain_of_nonneg (hd : 0 < d.digits) (hexponent : 0 ≤ d.exponent) :
    d.plain = Nat.toDigits 10 (d.digits * 10 ^ d.exponent.toNat) := by
  have hlength := Nat.length_toDigits_pos (b := 10) (n := d.digits)
  rw [plain, positional, if_neg (by rw [point]; omega), if_pos (by rw [point]; omega),
    toDigits_mul_pow hd, show d.point.toNat - (Nat.toDigits 10 d.digits).length =
      d.exponent.toNat by rw [point]; omega]

theorem pointed_plain (hexponent : d.exponent < 0) :
    Pointed d.digits (-d.exponent).toNat d.plain := by
  have hdigits {c : Char} (hc : c ∈ Nat.toDigits 10 d.digits) : isDigit c = true :=
    isDigit_of_mem_toDigits hc
  rw [plain, positional]
  split_ifs with hsmall hlarge
  -- the point stands ahead of the digits, behind a zero
  · have hzeros : ['0'] ++ (List.replicate (-d.point).toNat '0' ++ Nat.toDigits 10 d.digits) =
        List.replicate ((-d.point).toNat + 1) '0' ++ Nat.toDigits 10 d.digits := rfl
    refine ⟨['0'], List.replicate (-d.point).toNat '0' ++ Nat.toDigits 10 d.digits, rfl, ?_, ?_, ?_⟩
    · intro c hc
      rw [hzeros, List.mem_append] at hc
      rcases hc with hc | hc
      · rw [List.eq_of_mem_replicate hc]
        decide
      · exact hdigits hc
    · rw [hzeros, natOfDigits_zeros_append, natOfDigits_toDigits]
    · rw [point] at hsmall
      rw [List.length_append, List.length_replicate, point]
      omega
  · rw [point] at hlarge
    omega
  · refine ⟨_, _, rfl, ?_, ?_, ?_⟩
    · rw [List.take_append_drop]
      exact fun c hc => hdigits hc
    · rw [List.take_append_drop, natOfDigits_toDigits]
    · rw [point] at hsmall hlarge
      rw [List.length_drop, point]
      omega

/-! ### Plain form and JSON form -/

theorem e_mem_scientific (ds : List Char) (point : Int) : 'e' ∈ scientific ds point :=
  List.mem_append_left _ (List.mem_append_right _ List.mem_cons_self)

/-- JSON marks every number as one that need not be an integer. -/
theorem exists_not_digit_json (d : ShortDecimal) : ∃ c ∈ d.json, isDigit c = false := by
  rw [json]
  split_ifs with hrange hlength
  · exact ⟨'e', e_mem_scientific _ _, by decide⟩
  · exact ⟨'.', List.mem_append_right _ List.mem_cons_self, by decide⟩
  · have hexponent : d.exponent < 0 := by
      rw [point] at hlength
      omega
    rw [List.append_nil]
    exact ⟨'.', (pointed_plain hexponent).point_mem, by decide⟩

/-- The two forms of an integer differ. -/
theorem json_ne_plain_of_nonneg (he : 0 < e.digits) (hexponent : 0 ≤ e.exponent) :
    d.json ≠ e.plain := by
  intro heq
  obtain ⟨c, hc, hnot⟩ := exists_not_digit_json d
  rw [heq, plain_of_nonneg he hexponent] at hc
  rw [isDigit_of_mem_toDigits hc] at hnot
  cases hnot

/-- The two forms of a fraction are the same just if JSON has no power of ten and the digits are the
same. -/
theorem json_eq_plain_iff (hd : d.exponent < 0) (he : e.exponent < 0) :
    d.json = e.plain ↔ (-5 < d.point ∧ d.point ≤ 16) ∧ d = e := by
  have hplain := pointed_plain he
  have hlength : ¬ ((Nat.toDigits 10 d.digits).length : Int) ≤ d.point := by
    rw [point]
    omega
  rw [json, if_neg hlength, List.append_nil]
  split_ifs with hrange
  · refine iff_of_false (fun heq => ?_) fun h => ?_
    · exact hplain.not_mem_e (heq ▸ e_mem_scientific _ _)
    · simp only [Bool.or_eq_true, decide_eq_true_iff] at hrange
      omega
  · simp only [Bool.or_eq_true, decide_eq_true_iff, not_or, Int.not_le, Int.not_lt] at hrange
    refine ⟨fun heq => ⟨hrange, ?_⟩, fun h => h.2 ▸ rfl⟩
    obtain ⟨hdigits, hplaces⟩ := (pointed_plain hd).unique (heq ▸ hplain)
    have hexponent : d.exponent = e.exponent := by omega
    cases d
    cases e
    cases hdigits
    cases hexponent
    rfl

end ShortDecimal

namespace Binary64

variable {x : Binary64}

theorem units_pos_iff : 0 < x.units ↔ x.magnitude ≠ 0 := by
  have hunits : x.units = 0 ↔ x.significand = 0 := by
    rw [units, Nat.mul_eq_zero]
    exact or_iff_left (Nat.two_pow_pos _).ne'
  have hsig : x.significand = 0 ↔ x.magnitude = 0 := by
    rw [significand]
    split_ifs <;> omega
  rw [Nat.pos_iff_ne_zero, Ne, hunits, hsig]

theorem plainText_eq (hx : x.magnitude ≠ 0) :
    x.plainText = String.ofList (x.signText ++ (x.shortest .upward).plain) := by
  simp only [plainText, if_neg hx]
  rfl

theorem jsonText_eq (hx : x.magnitude ≠ 0) :
    x.jsonText = String.ofList (x.signText ++ (x.shortest .toEven).json) := by
  simp only [jsonText, if_neg hx]
  rfl

theorem plainText_of_zero (hx : x.magnitude = 0) :
    x.plainText = String.ofList (x.signText ++ ['0']) := by
  simp only [plainText, if_pos hx]

theorem jsonText_of_zero (hx : x.magnitude = 0) :
    x.jsonText = String.ofList (x.signText ++ ['0', '.', '0']) := by
  simp only [jsonText, if_pos hx]

/-- An integer is shown in plain form with the digits found for it. -/
theorem plainText_of_integer (hx : 0 < x.units) (hinteger : 2 ^ 1074 ∣ x.units) :
    x.plainText = String.ofList (x.signText ++ Nat.toDigits 10
      ((x.shortest .upward).digits * 10 ^ (x.shortest .upward).exponent.toNat)) := by
  rw [plainText_eq (units_pos_iff.mp hx), ShortDecimal.plain_of_nonneg
    (digits_shortest_pos .upward hx) (exponent_shortest_nonneg .upward hx hinteger)]

/-- The JSON text of a number is its plain text just if the number is a fraction, at least 0.00001 in
size, and both forms have found the same digits. -/
theorem jsonText_eq_plainText_iff (x : Binary64) :
    x.jsonText = x.plainText ↔
      ¬ 2 ^ 1074 ∣ x.units ∧ 2 ^ 1074 ≤ 10 ^ 5 * x.units ∧
        x.shortest .toEven = x.shortest .upward := by
  rcases Nat.eq_zero_or_pos x.units with hzero | hx
  · have hmagnitude : x.magnitude = 0 := by
      by_contra hne
      exact absurd hzero (units_pos_iff.mpr hne).ne'
    refine iff_of_false (fun heq => ?_) fun h => h.1 (hzero ▸ Nat.dvd_zero _)
    rw [jsonText_of_zero hmagnitude, plainText_of_zero hmagnitude, String.ofList_inj,
      List.append_cancel_left_eq] at heq
    cases heq
  · rw [jsonText_eq (units_pos_iff.mp hx), plainText_eq (units_pos_iff.mp hx), String.ofList_inj,
      List.append_cancel_left_eq]
    have hpos := digits_shortest_pos .toEven hx
    by_cases hinteger : 2 ^ 1074 ∣ x.units
    · refine iff_of_false ?_ fun h => h.1 hinteger
      exact ShortDecimal.json_ne_plain_of_nonneg (digits_shortest_pos .upward hx)
        (exponent_shortest_nonneg .upward hx hinteger)
    · rw [ShortDecimal.json_eq_plain_iff (exponent_shortest_neg .toEven hinteger)
        (exponent_shortest_neg .upward hinteger), ← Int.not_le, point_le_iff hpos, not_lt,
        le_quarters_shortest_iff .toEven hx]
      have hpoint := point_shortest_le .toEven hinteger
      exact ⟨fun h => ⟨hinteger, h.1.1, h.2⟩, fun h => ⟨⟨h.2.1, hpoint⟩, h.2.2⟩⟩

/-! ### Characters -/

theorem isCaseless_of_isDigit {c : Char} (h : isDigit c = true) : Text.IsCaseless c :=
  Nat.lt_of_le_of_lt (toNat_of_isDigit h).2 (by decide)

/-- Holds of the characters that numbers are written with. -/
def IsNumeric (c : Char) : Prop :=
  isDigit c = true ∨ c ∈ ['-', '+', '.', 'e']

theorem lower_of_isNumeric {c : Char} (hc : IsNumeric c) : c.toNat < 0x80 ∧ c.toLower = c := by
  rcases hc with hdigit | hmark
  · exact Text.lower_of_isCaseless (isCaseless_of_isDigit hdigit)
  · simp only [List.mem_cons, List.not_mem_nil, or_false] at hmark
    rcases hmark with rfl | rfl | rfl | rfl <;> exact ⟨by decide, by decide⟩

theorem mem_plain {d : ShortDecimal} {c : Char} (hd : 0 < d.digits) (hc : c ∈ d.plain) :
    isDigit c = true ∨ c = '.' := by
  rcases Int.lt_or_le d.exponent 0 with hneg | hnonneg
  · obtain ⟨whole, fraction, hplain, hdigits, -, -⟩ := ShortDecimal.pointed_plain hneg
    rw [hplain, List.mem_append, List.mem_cons] at hc
    rcases hc with hc | rfl | hc
    · exact Or.inl (hdigits c (List.mem_append_left _ hc))
    · exact Or.inr rfl
    · exact Or.inl (hdigits c (List.mem_append_right _ hc))
  · rw [ShortDecimal.plain_of_nonneg hd hnonneg] at hc
    exact Or.inl (isDigit_of_mem_toDigits hc)

theorem isNumeric_of_mem_plain {d : ShortDecimal} {c : Char} (hd : 0 < d.digits)
    (hc : c ∈ d.plain) : IsNumeric c := by
  rcases mem_plain hd hc with hdigit | rfl
  · exact Or.inl hdigit
  · exact Or.inr (by decide)

theorem mem_pointAfterFirst {ds : List Char} {c : Char} (hc : c ∈ pointAfterFirst ds) :
    c = '.' ∨ c ∈ ds := by
  rcases ds with _ | ⟨d, _ | ⟨e, ds⟩⟩
  · exact Or.inr hc
  · exact Or.inr hc
  · rw [pointAfterFirst, List.mem_cons, List.mem_cons] at hc
    rcases hc with rfl | rfl | hc
    · exact Or.inr List.mem_cons_self
    · exact Or.inl rfl
    · exact Or.inr (List.mem_cons_of_mem d hc)

theorem isNumeric_of_mem_scientific {n : Nat} {point : Int} {c : Char}
    (hc : c ∈ scientific (Nat.toDigits 10 n) point) : IsNumeric c := by
  rw [scientific, List.mem_append, List.mem_append] at hc
  rcases hc with (hc | hc) | hc
  · rcases mem_pointAfterFirst hc with rfl | hc
    · exact Or.inr (by decide)
    · exact Or.inl (isDigit_of_mem_toDigits hc)
  · refine Or.inr ?_
    rcases List.mem_pair.mp hc with rfl | rfl
    · decide
    · split_ifs <;> decide
  · exact Or.inl (isDigit_of_mem_toDigits hc)

theorem isNumeric_of_mem_json {d : ShortDecimal} {c : Char} (hd : 0 < d.digits)
    (hc : c ∈ d.json) : IsNumeric c := by
  rw [ShortDecimal.json] at hc
  split_ifs at hc
  · exact isNumeric_of_mem_scientific hc
  · rcases List.mem_append.mp hc with hc | hzero
    · exact isNumeric_of_mem_plain hd hc
    · rcases List.mem_pair.mp hzero with rfl | rfl
      · exact Or.inr (by decide)
      · exact Or.inl (by decide)
  · rw [List.append_nil] at hc
    exact isNumeric_of_mem_plain hd hc

theorem isNumeric_of_mem_signText {c : Char} (hc : c ∈ x.signText) : IsNumeric c := by
  rw [signText] at hc
  split_ifs at hc
  · rw [List.mem_singleton.mp hc]
    exact Or.inr (by decide)
  · cases hc

theorem lowered_signed (x : Binary64) {cs : List Char} (h : ∀ c ∈ cs, IsNumeric c) :
    Text.lowered (String.ofList (x.signText ++ cs)) = String.ofList (x.signText ++ cs) := by
  refine Text.lowered_eq_self fun c hc => lower_of_isNumeric ?_
  rw [String.toList_ofList, List.mem_append] at hc
  rcases hc with hsign | hc
  · exact isNumeric_of_mem_signText hsign
  · exact h c hc

/-- Plain text has no letters, whose case could matter. -/
theorem isCaseless_of_mem_plainText {c : Char} (hc : c ∈ x.plainText.toList) :
    Text.IsCaseless c := by
  have hsign : ∀ d ∈ x.signText, Text.IsCaseless d := by
    intro d hd
    rw [signText] at hd
    split_ifs at hd
    · rw [List.mem_singleton.mp hd]
      exact (by decide : 0x2D < 0x41)
    · cases hd
  by_cases hx : x.magnitude = 0
  · rw [plainText_of_zero hx, String.toList_ofList, List.mem_append, List.mem_singleton] at hc
    rcases hc with hc | rfl
    · exact hsign c hc
    · exact isCaseless_of_isDigit (by decide)
  · rw [plainText_eq hx, String.toList_ofList, List.mem_append] at hc
    rcases hc with hc | hc
    · exact hsign c hc
    · rcases mem_plain (digits_shortest_pos .upward (units_pos_iff.mpr hx)) hc with hc | rfl
      · exact isCaseless_of_isDigit hc
      · exact (by decide : 0x2E < 0x41)

/-- Lower case leaves numbers as they are. -/
theorem lowered_plainText (x : Binary64) : Text.lowered x.plainText = x.plainText :=
  Text.lowered_of_isCaseless fun _ => isCaseless_of_mem_plainText

theorem lowered_jsonText (x : Binary64) : Text.lowered x.jsonText = x.jsonText := by
  by_cases hx : x.magnitude = 0
  · rw [jsonText_of_zero hx]
    have hzero : IsNumeric '0' := Or.inl (by decide)
    have hpoint : IsNumeric '.' := Or.inr (by decide)
    exact x.lowered_signed (by simp [hzero, hpoint])
  · rw [jsonText_eq hx]
    exact x.lowered_signed fun c =>
      isNumeric_of_mem_json (digits_shortest_pos .toEven (units_pos_iff.mpr hx))

end Binary64

end Entitlement
