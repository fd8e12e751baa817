import Entitlement.Proofs.Calendar.Age
import Entitlement.Proofs.Check.Range
import Entitlement.Proofs.Check.Supplied
import Entitlement.Proofs.Number.Overflow
import Entitlement.Proofs.Number.Value

/-!
# Targets of comparisons

A rule's value is read as a finite number or not at all: the names of infinities and NaN are
refused, and so is a numeral that is too large. The ends of a range moreover have no sign, as a
hyphen only ever stands between them. So nobody whose value is below zero is in any range.
-/

namespace Entitlement

/-! ### Bits of numbers -/

namespace Binary64

variable {x y : Binary64}

/-- The eleven bits of the exponent. They are all set in infinities and NaN, and in no number. -/
def exponentField (x : Binary64) : Nat :=
  x.bits / 2 ^ 52 % 2 ^ 11

/-- The bit of the sign. -/
def signBit (x : Binary64) : Nat :=
  x.bits / 2 ^ 63

theorem exponentField_lt (x : Binary64) : x.exponentField < 2047 := by
  have hfinite := x.finite
  rw [exponentField, bits]
  split_ifs <;> omega

theorem signBit_eq_zero_iff : x.signBit = 0 ↔ x.negative = false := by
  have hfinite := x.finite
  rw [signBit, bits]
  cases x.negative
  · exact iff_of_true (by simp only [Bool.false_eq_true, if_false]; omega) rfl
  · exact iff_of_false (by simp only [if_true]; omega) (by decide)

theorem lt_zero_iff : x < zero ↔ x.negative = true ∧ x.magnitude ≠ 0 := by
  have hplace : x < zero ↔ x.place < 0 := Iff.rfl
  rw [hplace, place]
  cases x.negative
  · exact iff_of_false (by simp) fun h => Bool.false_ne_true h.1
  · simp [Nat.pos_iff_ne_zero]

/-- What is below zero is below every number without a sign. -/
theorem not_le_of_lt_zero (hx : x.negative = false) (hy : y < zero) : ¬ x ≤ y := by
  have hplace : 0 ≤ x.place := by
    rw [place, hx]
    exact Int.natCast_nonneg _
  exact Int.not_le.mpr (Int.lt_of_lt_of_le hy hplace)

/-- The nearest number to a negative integer is below zero. -/
theorem exists_ofInt?_lt_zero {k : Int} (hk : k < 0) (hbound : k.natAbs < 2 ^ 64) :
    ∃ x, ofInt? k = some x ∧ x < zero := by
  obtain ⟨x, hx, hnegative, hpos, -⟩ := exists_ofInt? (Int.ne_of_lt hk) hbound
  refine ⟨x, hx, lt_zero_iff.mpr ⟨?_, units_pos_iff.mp hpos⟩⟩
  rw [hnegative, decide_eq_true hk]

end Binary64

/-! ### Texts of numbers, of infinities and of NaN -/

/-- Holds of the texts that spell a numeral which is not too large. -/
def FiniteText (cs : List Char) : Prop :=
  ∃ d, Decimal.ofText? cs = some d ∧ d.size < Binary64.overflow

/-- Holds of the texts that denote an infinity or NaN: a name, in any case and with or without a
sign, or a numeral that is too large. -/
inductive NonFiniteText : List Char → Prop where
  | named {sign word : List Char} (hsign : sign ∈ [[], ['+'], ['-']])
      (hword : String.ofList (word.map Char.toLower) ∈ ["inf", "infinity", "nan"]) :
    NonFiniteText (sign ++ word)
  | tooLarge {cs : List Char} {d : Decimal} (hd : Decimal.ofText? cs = some d)
      (hlarge : Binary64.overflow ≤ d.size) : NonFiniteText cs

theorem exists_numberOfText?_iff {s : String} :
    (∃ x, numberOfText? s = some x) ↔ FiniteText (Text.trim s.toList) := by
  rw [← Option.isSome_iff_exists, Option.isSome_iff_ne_none, ne_eq, numberOfText?_eq_none_iff,
    FiniteText]
  push Not
  exact Iff.rfl

/-- There is no digit in the name of an infinity or of NaN. -/
theorem not_isDigit_of_mem_name {word : List Char} {c : Char}
    (hword : String.ofList (word.map Char.toLower) ∈ ["inf", "infinity", "nan"]) (hc : c ∈ word) :
    Decimal.isDigit c = false := by
  have hmem : c.toLower ∈ (String.ofList (word.map Char.toLower)).toList := by
    rw [String.toList_ofList]
    exact List.mem_map_of_mem hc
  have hletters : (["inf", "infinity", "nan"].all fun name =>
      name.toList.all fun c => Decimal.isDigit c = false) = true := by decide
  have hlower : Decimal.isDigit c.toLower = false :=
    of_decide_eq_true (List.all_eq_true.mp (List.all_eq_true.mp hletters _ hword) _ hmem)
  by_contra hdigit
  rw [Bool.not_eq_false] at hdigit
  rw [(Text.lower_of_isCaseless (Binary64.isCaseless_of_isDigit hdigit)).2, hdigit] at hlower
  cases hlower

theorem numberOfText?_of_nonFiniteText {s : String} (h : NonFiniteText (Text.trim s.toList)) :
    numberOfText? s = none := by
  rw [numberOfText?_eq_none_iff]
  generalize Text.trim s.toList = cs at h
  intro d hd
  cases h with
  | @named sign word hsign hword =>
    obtain ⟨-, hne, hdigits⟩ := Decimal.fields_of_ofText? hd
    obtain ⟨c, hc⟩ := List.exists_mem_of_ne_nil _ hne
    obtain ⟨hdigit, hmem⟩ := hdigits c hc
    have hother : Decimal.isDigit c = false := by
      rcases List.mem_append.mp hmem with hmem | hmem
      · have hsigns : ([[], ['+'], ['-']].all fun sign =>
            sign.all fun c => Decimal.isDigit c = false) = true := by decide
        exact of_decide_eq_true (List.all_eq_true.mp (List.all_eq_true.mp hsigns _ hsign) _ hmem)
      · exact not_isDigit_of_mem_name hword hmem
    cases hdigit.symm.trans hother
  | tooLarge hd' hlarge =>
    cases hd.symm.trans hd'
    exact hlarge

/-! ### Ends of ranges -/

/-- The ends of a range have no sign. -/
theorem not_negative_of_rangeOfText? {raw : String} {min max : Binary64}
    (h : rangeOfText? raw = some (min, max)) : min.negative = false ∧ max.negative = false := by
  obtain ⟨low, high, hparts, hmin, hmax⟩ := rangeOfText?_eq_some_iff.mp h
  have hplain : ∀ part ∈ [low, high], '-' ∉ (String.ofList part).toList := by
    intro part hpart
    rw [String.toList_ofList]
    exact Text.not_mem_of_mem_parts (hparts ▸ hpart)
  exact ⟨not_negative_of_numberOfText? hmin (hplain low (by simp)),
    not_negative_of_numberOfText? hmax (hplain high (by simp))⟩

/-- A range one side of which denotes an infinity or NaN is refused. -/
theorem rangeOfText?_of_nonFiniteText {raw : String} {part : List Char}
    (hpart : part ∈ Text.parts '-' raw.toList) (h : NonFiniteText (Text.trim part)) :
    rangeOfText? raw = none := by
  have hnone : numberOfText? (String.ofList part) = none :=
    numberOfText?_of_nonFiniteText (by rwa [String.toList_ofList])
  rw [Option.eq_none_iff_forall_ne_some]
  rintro ⟨min, max⟩ hrange
  obtain ⟨low, high, hparts, hmin, hmax⟩ := rangeOfText?_eq_some_iff.mp hrange
  rw [hparts, List.mem_cons, List.mem_singleton] at hpart
  rcases hpart with rfl | rfl
  · cases hnone.symm.trans hmin
  · cases hnone.symm.trans hmax

/-! ### Targets -/

/-- The numbers that a comparison compares with. -/
def Comparison.targets : Comparison → List Binary64
  | .lessThan x | .greaterThan x => [x]
  | .between min max => [min, max]
  | .equals _ | .notEquals _ | .includes _ => []

theorem Comparison.read_between_eq_ok_iff {raw : String} {comparison : Comparison} :
    read .between raw = .ok comparison ↔
      ∃ min max, rangeOfText? raw = some (min, max) ∧ comparison = .between min max := by
  rw [read]
  cases hrange : rangeOfText? raw with
  | none => exact ⟨by rintro ⟨⟩, by rintro ⟨_, _, ⟨⟩, -⟩⟩
  | some range =>
    constructor
    · rintro ⟨⟩
      exact ⟨_, _, rfl, rfl⟩
    · rintro ⟨_, _, ⟨⟩, rfl⟩
      rfl

/-- The two operators that compare with one number read the same texts. -/
theorem Comparison.exists_read_number_iff {operator : Operator} {raw : String}
    (h : operator ∈ [.lessThan, .greaterThan]) :
    (∃ comparison, read operator raw = .ok comparison) ↔ FiniteText (Text.trim raw.toList) := by
  rw [← exists_numberOfText?_iff]
  rcases List.mem_pair.mp h with rfl | rfl
  · rw [read]
    cases numberOfText? raw <;> simp
  · rw [read]
    cases numberOfText? raw <;> simp

theorem Comparison.read_number_of_nonFiniteText {operator : Operator} {raw : String}
    (h : operator ∈ [.lessThan, .greaterThan]) (hraw : NonFiniteText (Text.trim raw.toList)) :
    read operator raw = .error (.nonNumericTarget raw) := by
  rcases List.mem_pair.mp h with rfl | rfl
  · rw [read, numberOfText?_of_nonFiniteText hraw]
  · rw [read, numberOfText?_of_nonFiniteText hraw]

theorem Comparison.exists_read_between_iff {raw : String} :
    (∃ comparison, read .between raw = .ok comparison) ↔
      ∃ low high, Text.parts '-' raw.toList = [low, high] ∧ FiniteText (Text.trim low) ∧
        FiniteText (Text.trim high) := by
  have hpart (part : List Char) :
      (∃ x, numberOfText? (String.ofList part) = some x) ↔ FiniteText (Text.trim part) := by
    rw [exists_numberOfText?_iff, String.toList_ofList]
  simp only [read_between_eq_ok_iff, rangeOfText?_eq_some_iff, ← hpart]
  constructor
  · rintro ⟨_, min, max, ⟨low, high, hparts, hmin, hmax⟩, rfl⟩
    exact ⟨low, high, hparts, ⟨min, hmin⟩, ⟨max, hmax⟩⟩
  · rintro ⟨low, high, hparts, ⟨min, hmin⟩, ⟨max, hmax⟩⟩
    exact ⟨_, min, max, ⟨low, high, hparts, hmin, hmax⟩, rfl⟩

theorem Comparison.not_negative_of_mem_targets {raw : String} {comparison : Comparison}
    {x : Binary64} (h : read .between raw = .ok comparison) (hx : x ∈ comparison.targets) :
    x.negative = false := by
  obtain ⟨min, max, hrange, rfl⟩ := read_between_eq_ok_iff.mp h
  obtain ⟨hmin, hmax⟩ := not_negative_of_rangeOfText? hrange
  rcases List.mem_pair.mp hx with rfl | rfl
  · exact hmin
  · exact hmax

/-! ### Values below zero -/

/-- Holds of the fields that have a value below zero: a negative income or mark, or the age where
the date of birth is after the day. -/
inductive Profile.BelowZero (p : Profile) (today : Date) : Field → Prop where
  | income {x : Binary64} (hx : p.annualIncome = some x) (hneg : x < .zero) :
    BelowZero p today .annualIncome
  | marks {x : Binary64} (hx : p.marksPercentage = some x) (hneg : x < .zero) :
    BelowZero p today .marksPercentage
  | age {text : String} {birth : Date} (hage : p.age = none) (htext : p.dateOfBirth = some text)
      (hbirth : Date.ofBirthText? text = some birth) (hafter : today < birth) :
    BelowZero p today .age

variable {p : Profile} {today : Date} {f : Field}

theorem Profile.BelowZero.exists_number (h : p.BelowZero today f) :
    ∃ x, p.attribute? today f = some (.number x) ∧ x < .zero := by
  cases h with
  | @income x hx hneg =>
    refine ⟨x, ?_, hneg⟩
    rw [attribute?, hx, Option.map_some]
  | @marks x hx hneg =>
    refine ⟨x, ?_, hneg⟩
    rw [attribute?, hx, Option.map_some]
  | @age text birth hage htext hbirth hafter =>
    have hneg : Date.ageOn birth today < 0 := Date.ageOn_neg_iff.mpr hafter
    have hbound : (Date.ageOn birth today).natAbs < 2 ^ 64 := by
      obtain ⟨hlow, hhigh⟩ := birth.isAge_ageOn today
      omega
    obtain ⟨x, hx, hzero⟩ := Binary64.exists_ofInt?_lt_zero hneg hbound
    have hk : p.age? today = some (Date.ageOn birth today) := by
      rw [age?, hage]
      dsimp only
      rw [htext, Option.bind_some, hbirth, Option.map_some]
    refine ⟨x, ?_, hzero⟩
    rw [attribute?, hk, Option.bind_some, hx, Option.map_some]

/-- A value below zero is in no range, however that is written. -/
theorem Condition.between_not_satisfied {a : Attribute} {x : Binary64}
    (ha : p.attribute? today f = some a) (hx : a.number? = some x) (hneg : x < .zero)
    (value : RuleValue) :
    (Condition.mk (.known f) (.known .between) value).check p today ≠ .satisfied := by
  cases value with
  | unsupported json => rintro ⟨⟩
  | text raw =>
    rw [ne_eq, satisfied_iff_evaluate ha]
    cases hrange : rangeOfText? raw with
    | none =>
      rw [Operator.evaluate_between_of_none hrange]
      rintro ⟨⟩
    | some range =>
      obtain ⟨min, max⟩ := range
      have houtside : ¬ min ≤ x :=
        Binary64.not_le_of_lt_zero (not_negative_of_rangeOfText? hrange).1 hneg
      rw [Operator.evaluate_between_of_some hrange, Comparison.numberOf_of_some hx]
      simp [Except.map, houtside]

/-- Every number that a rule's value gives to compare with is finite, and those of a range have no
sign. The operators that compare numbers take the texts of numerals that are not too large, and no
others; in particular they refuse what denotes an infinity or NaN, also on one side of a range. So
an attribute below zero is in no range, be it an income, a mark, or the age of somebody who is not
born yet. -/
theorem targets_are_finite_and_ranges_not_negative :
    (∀ (operator : Operator) (raw : String) (comparison : Comparison),
      Comparison.read operator raw = .ok comparison → ∀ x ∈ comparison.targets,
        x.exponentField < 2047 ∧ (operator = .between → x.signBit = 0)) ∧
    (∀ operator ∈ [Operator.lessThan, .greaterThan], ∀ raw : String,
      ((∃ comparison, Comparison.read operator raw = .ok comparison) ↔
        FiniteText (Text.trim raw.toList)) ∧
      (NonFiniteText (Text.trim raw.toList) →
        Comparison.read operator raw = .error (.nonNumericTarget raw))) ∧
    (∀ raw : String,
      ((∃ comparison, Comparison.read .between raw = .ok comparison) ↔
        ∃ low high, Text.parts '-' raw.toList = [low, high] ∧ FiniteText (Text.trim low) ∧
          FiniteText (Text.trim high)) ∧
      ∀ part ∈ Text.parts '-' raw.toList, NonFiniteText (Text.trim part) →
        Comparison.read .between raw = .error (.malformedRange raw)) ∧
    (∀ (p : Profile) (today : Date) (f : Field) (a : Attribute) (x : Binary64) (value : RuleValue),
      p.attribute? today f = some a → a.number? = some x → x < .zero →
        (Condition.mk (.known f) (.known .between) value).check p today ≠ .satisfied) ∧
    ∀ (p : Profile) (today : Date) (f : Field) (value : RuleValue), p.BelowZero today f →
      (Condition.mk (.known f) (.known .between) value).check p today ≠ .satisfied := by
  refine ⟨fun operator raw comparison h x hx => ⟨x.exponentField_lt, ?_⟩,
    fun operator hoperator raw => ⟨Comparison.exists_read_number_iff hoperator,
      Comparison.read_number_of_nonFiniteText hoperator⟩,
    fun raw => ⟨Comparison.exists_read_between_iff, fun part hpart h => ?_⟩,
    fun p today f a x value ha hx hneg => Condition.between_not_satisfied ha hx hneg value,
    fun p today f value h => ?_⟩
  · rintro rfl
    exact Binary64.signBit_eq_zero_iff.mpr (Comparison.not_negative_of_mem_targets h hx)
  · rw [Comparison.read, rangeOfText?_of_nonFiniteText hpart h]
  · obtain ⟨x, ha, hneg⟩ := h.exists_number
    exact Condition.between_not_satisfied ha rfl hneg value

/-- Somebody who is born tomorrow and has a negative number for a category, and rules with numbers
that are too large or have a name. -/
theorem born_tomorrow_is_in_no_range :
    let today : Date := ⟨2024, 6, 15, by decide, by decide, by decide⟩
    let p : Profile := { id := "p-1", category := some "-0.5", dateOfBirth := some "2024-06-16" }
    let range : RuleValue := .text "+0 - 1.5e3"
    (∃ min max, Comparison.read .between "+0 - 1.5e3" = .ok (.between min max) ∧
      max.exponentField < 2047 ∧ min.signBit = 0) ∧
    Comparison.read .lessThan " -InFinity" = .error (.nonNumericTarget " -InFinity") ∧
    Comparison.read .between "0-1e309" = .error (.malformedRange "0-1e309") ∧
    (Condition.mk (.known .category) (.known .between) range).check p today ≠ .satisfied ∧
    p.BelowZero today .age ∧
    (Condition.mk (.known .age) (.known .between) range).check p today ≠ .satisfied := by
  intro today p range
  obtain ⟨hfinite, hname, hlarge, hattribute, hprofile⟩ := targets_are_finite_and_ranges_not_negative
  have hrange : (rangeOfText? "+0 - 1.5e3").isSome = true := by decide +kernel
  obtain ⟨⟨min, max⟩, hrange⟩ := Option.isSome_iff_exists.mp hrange
  have hread : Comparison.read .between "+0 - 1.5e3" = .ok (.between min max) :=
    Comparison.read_between_eq_ok_iff.mpr ⟨min, max, hrange, rfl⟩
  have hnamed : NonFiniteText (Text.trim " -InFinity".toList) :=
    @NonFiniteText.named ['-'] "InFinity".toList (by decide) (by decide +kernel)
  have hdigits : Decimal.ofText? "1e309".toList = some ⟨false, ['1'], 309⟩ := by decide +kernel
  have hsize : Binary64.overflow ≤ (⟨false, ['1'], 309⟩ : Decimal).size :=
    (Decimal.toBinary64?_eq_none_iff (List.forall_mem_singleton.mpr (by decide))).mp
      (by decide +kernel)
  have hhalf : (numberOfText? "-0.5").any (· < .zero) = true := by decide +kernel
  obtain ⟨x, hx, hneg⟩ := (Option.any_eq_true _ _).mp hhalf
  have hage : p.BelowZero today .age :=
    @Profile.BelowZero.age p today "2024-06-16" ⟨2024, 6, 16, by decide, by decide, by decide⟩
      rfl rfl (by decide +kernel) (by decide)
  refine ⟨⟨min, max, hread, ?_, ?_⟩, (hname .lessThan (by decide) _).2 hnamed,
    (hlarge "0-1e309").2 "1e309".toList ?_ ?_,
    hattribute p today .category (.text "-0.5") x range rfl hx (of_decide_eq_true hneg), hage,
    hprofile p today .age range hage⟩
  · exact (hfinite .between _ _ hread max (by simp [Comparison.targets])).1
  · exact (hfinite .between _ _ hread min (by simp [Comparison.targets])).2 rfl
  · decide +kernel
  · exact .tooLarge hdigits hsize

end Entitlement
