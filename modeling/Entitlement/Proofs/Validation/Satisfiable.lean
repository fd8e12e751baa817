import Entitlement.Proofs.Check.Group
import Entitlement.Proofs.Check.Includes
import Entitlement.Proofs.Check.Range
import Entitlement.Proofs.Check.Supplied
import Entitlement.Proofs.Validation.Rows

/-!
# Rows that somebody can meet

Validation asks only whether a value can be read. So a row without errors may still ask for what no
profile has: a range from high to low or without an age in it, a number beyond all others, or a text
that no number is shown as. What each operator needs is spelled out here, for each kind of field.
-/

namespace Entitlement

variable {kind : FieldKind} {raw : String} {x min max : Binary64}

namespace FieldKind

/-- Holds when a number of the kind lies in the range that a text gives. -/
def Reaches : FieldKind → Binary64 → Binary64 → Prop
  | .text, min, max | .number, min, max => min ≤ max
  | .age, min, max => ∃ k : Int, IsAge k ∧ min.value ≤ k ∧ k ≤ max.value

/-- Holds when the operator is met by some value of the kind. -/
def Admits (kind : FieldKind) (raw : String) : Operator → Prop
  | .equals => kind.Shows raw
  | .notEquals => True
  | .includes => ∃ s, kind.Shows s ∧ raw.toList <:+: s.toList
  | .lessThan => ∃ y, numberOfText? raw = some y ∧ kind.lower < y.value
  | .greaterThan => ∃ y, numberOfText? raw = some y ∧ y.value < kind.upper
  | .between => ∃ min max, rangeOfText? raw = some (min, max) ∧ kind.Reaches min max

/-! ### Comparing texts -/

/-- A test of the lower case of what is shown is met by a value of the kind just if it is met by a
text that values of the kind are shown as. -/
theorem exists_test_shown_iff (kind : FieldKind) (test : String → Bool) :
    (∃ a, kind.Takes a ∧ (.ok (test (Text.lowered a.shown)) : Except Refusal Bool) = .ok true) ↔
      ∃ s, kind.Shows s ∧ test (Text.lowered s) = true := by
  simp only [Except.ok.injEq]
  constructor
  · rintro ⟨a, ha, htest⟩
    exact ⟨a.shown, exists_shown_iff.mp ⟨a, ha, rfl⟩, htest⟩
  · rintro ⟨s, hs, htest⟩
    obtain ⟨a, ha, rfl⟩ := exists_shown_iff.mpr hs
    exact ⟨a, ha, htest⟩

theorem exists_equals_iff :
    (∃ a, kind.Takes a ∧ Operator.equals.evaluate raw a = .ok true) ↔ kind.Shows raw := by
  refine (exists_test_shown_iff kind (· = Text.lowered raw)).trans ?_
  simp only [decide_eq_true_iff]
  refine ⟨fun ⟨s, hs, hsame⟩ => ?_, fun h => ⟨raw, h, rfl⟩⟩
  by_cases hkind : kind = .text
  · rw [hkind]
    trivial
  · have hcaseless := hs.isCaseless hkind
    rw [Text.lowered_of_isCaseless hcaseless, eq_comm,
      Text.lowered_eq_iff_of_isCaseless hcaseless] at hsame
    rwa [hsame]

theorem exists_notEquals (kind : FieldKind) (raw : String) :
    ∃ a, kind.Takes a ∧ Operator.notEquals.evaluate raw a = .ok true := by
  refine (exists_test_shown_iff kind (· ≠ Text.lowered raw)).mpr ?_
  simp only [decide_eq_true_iff]
  -- of two texts shown for every kind, one at least is another
  have hzero : Text.lowered "0" ≠ Text.lowered "1" := by decide +kernel
  by_cases h : Text.lowered "0" = Text.lowered raw
  · exact ⟨"1", kind.shows_one, fun hone => hzero (h.trans hone.symm)⟩
  · exact ⟨"0", kind.shows_zero, h⟩

theorem exists_includes_iff :
    (∃ a, kind.Takes a ∧ Operator.includes.evaluate raw a = .ok true) ↔
      ∃ s, kind.Shows s ∧ raw.toList <:+: s.toList := by
  refine (exists_test_shown_iff kind fun s => occursIn (Text.lowered raw).toList s.toList).trans ?_
  simp only [occursIn_iff]
  by_cases hkind : kind = .text
  · subst hkind
    exact iff_of_true ⟨raw, trivial, List.infix_refl _⟩ ⟨raw, trivial, List.infix_refl _⟩
  · refine exists_congr fun s => and_congr_right fun hs => ?_
    have hcaseless := hs.isCaseless hkind
    rw [Text.lowered_of_isCaseless hcaseless, Text.lowered_isInfix_iff_of_isCaseless hcaseless]

/-! ### Comparing numbers -/

/-- A test of numbers is met by a value of the kind just if it is met by a number that values of the
kind count as. -/
theorem exists_test_number_iff {test : Binary64 → Bool} :
    (∃ a, kind.Takes a ∧ (Comparison.numberOf a).map test = .ok true) ↔
      ∃ x, kind.Counts x ∧ test x = true := by
  constructor
  · rintro ⟨a, ha, htest⟩
    cases hx : a.number? with
    | none =>
      rw [Comparison.numberOf_of_none hx] at htest
      cases htest
    | some x =>
      rw [Comparison.numberOf_of_some hx, Except.map, Except.ok.injEq] at htest
      exact ⟨x, ⟨a, ha, hx⟩, htest⟩
  · rintro ⟨x, ⟨a, ha, hx⟩, htest⟩
    exact ⟨a, ha, by rw [Comparison.numberOf_of_some hx, Except.map, htest]⟩

theorem exists_counts_lt_iff {y : Binary64} :
    (∃ x, kind.Counts x ∧ x < y) ↔ kind.lower < y.value := by
  constructor
  · rintro ⟨x, hx, hlt⟩
    exact lt_of_le_of_lt hx.value_mem.1 (Binary64.lt_iff_value_lt.mp hlt)
  · intro hlt
    obtain ⟨x, hx, hvalue⟩ := kind.exists_counts_lower
    exact ⟨x, hx, Binary64.lt_iff_value_lt.mpr (hvalue ▸ hlt)⟩

theorem exists_lt_counts_iff {y : Binary64} :
    (∃ x, kind.Counts x ∧ y < x) ↔ y.value < kind.upper := by
  constructor
  · rintro ⟨x, hx, hlt⟩
    exact lt_of_lt_of_le (Binary64.lt_iff_value_lt.mp hlt) hx.value_mem.2
  · intro hlt
    obtain ⟨x, hx, hvalue⟩ := kind.exists_counts_upper
    exact ⟨x, hx, Binary64.lt_iff_value_lt.mpr (hvalue ▸ hlt)⟩

theorem exists_counts_between_iff (kind : FieldKind) (h : rangeOfText? raw = some (min, max)) :
    (∃ x, kind.Counts x ∧ min ≤ x ∧ x ≤ max) ↔ kind.Reaches min max := by
  have htrans : ∀ x, min ≤ x ∧ x ≤ max → min ≤ max := fun x hx => Int.le_trans hx.1 hx.2
  cases kind with
  | text =>
    refine ⟨fun ⟨x, _, hx⟩ => htrans x hx, fun hle => ?_⟩
    exact ⟨min, counts_text_iff.mpr (exists_text_of_rangeOfText? h), Int.le_refl _, hle⟩
  | number =>
    refine ⟨fun ⟨x, _, hx⟩ => htrans x hx, fun hle => ?_⟩
    exact ⟨min, counts_number min, Int.le_refl _, hle⟩
  | age =>
    simp only [Binary64.le_iff_value_le]
    constructor
    · rintro ⟨x, hx, hmin, hmax⟩
      obtain ⟨k, hk, hvalue⟩ := hx.exists_isAge
      exact ⟨k, hk, hvalue ▸ hmin, hvalue ▸ hmax⟩
    · rintro ⟨k, hk, hmin, hmax⟩
      obtain ⟨x, hx, hvalue⟩ := counts_of_isAge hk
      exact ⟨x, hx, hvalue.symm ▸ hmin, hvalue.symm ▸ hmax⟩

/-- An order of numbers is asked about in vain where the text gives no number. -/
theorem not_exists_evaluate_of_error {operator : Operator} {reason : Refusal}
    (h : Comparison.read operator raw = .error reason) :
    ¬ ∃ a, kind.Takes a ∧ operator.evaluate raw a = .ok true := by
  rintro ⟨a, -, ha⟩
  rw [Operator.evaluate, h] at ha
  cases ha

theorem exists_lessThan_iff :
    (∃ a, kind.Takes a ∧ Operator.lessThan.evaluate raw a = .ok true) ↔
      ∃ y, numberOfText? raw = some y ∧ kind.lower < y.value := by
  cases hy : numberOfText? raw with
  | none => exact iff_of_false (not_exists_evaluate_of_error (by rw [Comparison.read, hy])) nofun
  | some y =>
    simp only [Operator.evaluate_lessThan hy, exists_test_number_iff, decide_eq_true_iff,
      exists_counts_lt_iff, Option.some.injEq, exists_eq_left']

theorem exists_greaterThan_iff :
    (∃ a, kind.Takes a ∧ Operator.greaterThan.evaluate raw a = .ok true) ↔
      ∃ y, numberOfText? raw = some y ∧ y.value < kind.upper := by
  cases hy : numberOfText? raw with
  | none => exact iff_of_false (not_exists_evaluate_of_error (by rw [Comparison.read, hy])) nofun
  | some y =>
    simp only [Operator.evaluate_greaterThan hy, exists_test_number_iff, decide_eq_true_iff,
      exists_lt_counts_iff, Option.some.injEq, exists_eq_left']

theorem exists_between_iff :
    (∃ a, kind.Takes a ∧ Operator.between.evaluate raw a = .ok true) ↔
      ∃ min max, rangeOfText? raw = some (min, max) ∧ kind.Reaches min max := by
  cases hrange : rangeOfText? raw with
  | none =>
    exact iff_of_false (not_exists_evaluate_of_error (by rw [Comparison.read, hrange])) nofun
  | some range =>
    obtain ⟨min, max⟩ := range
    simp only [Operator.evaluate_between_of_some hrange, exists_test_number_iff, Bool.and_eq_true,
      decide_eq_true_iff, exists_counts_between_iff kind hrange, Option.some.injEq, Prod.mk.injEq]
    constructor
    · exact fun h => ⟨min, max, ⟨rfl, rfl⟩, h⟩
    · rintro ⟨_, _, ⟨rfl, rfl⟩, h⟩
      exact h

theorem exists_evaluate_iff (operator : Operator) :
    (∃ a, kind.Takes a ∧ operator.evaluate raw a = .ok true) ↔ kind.Admits raw operator := by
  cases operator with
  | equals => exact exists_equals_iff
  | notEquals => exact iff_of_true (exists_notEquals kind raw) trivial
  | includes => exact exists_includes_iff
  | lessThan => exact exists_lessThan_iff
  | greaterThan => exact exists_greaterThan_iff
  | between => exact exists_between_iff

end FieldKind

/-! ### Rows -/

/-- A row that reads as one is met by somebody on some day just if the operator is met by a value
that its field takes. -/
theorem Condition.exists_satisfied_iff {f : Field} {operator : Operator} :
    (∃ (p : Profile) (today : Date),
      (Condition.mk (.known f) (.known operator) (.text raw)).check p today = .satisfied) ↔
        f.kind.Admits raw operator := by
  rw [← FieldKind.exists_evaluate_iff]
  constructor
  · rintro ⟨p, today, hmet⟩
    cases ha : p.attribute? today f with
    | none => exact absurd hmet (not_satisfied_of_no_attribute ha operator _)
    | some a =>
      exact ⟨a, Field.exists_attribute?_iff.mp ⟨p, today, ha⟩,
        (satisfied_iff_evaluate ha operator raw).mp hmet⟩
  · rintro ⟨a, htakes, hsays⟩
    obtain ⟨p, today, ha⟩ := Field.exists_attribute?_iff.mpr htakes
    exact ⟨p, today, (satisfied_iff_evaluate ha operator raw).mpr hsays⟩

/-- A row without an error in the report asks something. -/
theorem Ruleset.exists_question_of_no_error {r : Ruleset} {g : Group} {c : Condition}
    {place row : Nat} (hplace : r[place]? = some g) (hrow : g.rows[row]? = some c)
    (hvalid : ∀ i ∈ r.issues, i.group = place → i.row = some row → i.isError = false) :
    ∃ asked, c.question = .ok asked := by
  cases hc : c.question with
  | ok asked => exact ⟨asked, rfl⟩
  | error reason =>
    obtain ⟨kind, hkind, -⟩ := Condition.firstError?_of_question_error hc
    rw [← rowIssues_eq hplace hrow] at hkind
    obtain ⟨i, hi, hgroup, hspot, herror⟩ := exists_issue_of_firstError? hkind
    rw [hvalid i hi hgroup hspot] at herror
    cases herror

/-- A row without errors asks a field for something by a text. Somebody meets it, on some day, just
if the field can have a value that the operator wants: that says what its text has to be. The same
holds of the group that asks for nothing but the row. -/
theorem valid_row_can_be_met_iff {r : Ruleset} {g : Group} {c : Condition} {place row : Nat}
    (hplace : r[place]? = some g) (hrow : g.rows[row]? = some c)
    (hvalid : ∀ i ∈ r.issues, i.group = place → i.row = some row → i.isError = false) :
    ∃ f operator raw, c = ⟨.known f, .known operator, .text raw⟩ ∧
      ((∃ (p : Profile) (today : Date), c.check p today = .satisfied) ↔
        f.kind.Admits raw operator) ∧
      ((∃ (p : Profile) (today : Date), ((Group.allOf [c]).evaluate p today).passed = true) ↔
        f.kind.Admits raw operator) := by
  obtain ⟨⟨f, comparison⟩, hasked⟩ := Ruleset.exists_question_of_no_error hplace hrow hvalid
  obtain ⟨operator, raw, rfl, -⟩ := Condition.question_ok hasked
  simp only [Group.passed_allOf_singleton]
  exact ⟨f, operator, raw, rfl, Condition.exists_satisfied_iff, Condition.exists_satisfied_iff⟩

/-- Marks from 40 to 60 are had by somebody. -/
theorem range_from_low_to_high_is_met :
    let c : Condition := ⟨.known .marksPercentage, .known .between, .text "40-60"⟩
    let rules : Ruleset := [.allOf [c]]
    rules.issues = [] ∧ (∃ (p : Profile) (today : Date), c.check p today = .satisfied) ∧
      ∃ (p : Profile) (today : Date), ((Group.allOf [c]).evaluate p today).passed = true := by
  intro c rules
  have hissues : rules.issues = [] := by decide +kernel
  have hvalid : ∀ i ∈ rules.issues, i.group = 0 → i.row = some 0 → i.isError = false := by
    rw [hissues]
    exact fun _ hi => absurd hi List.not_mem_nil
  obtain ⟨f, operator, raw, hc, hmet, hpassed⟩ :=
    valid_row_can_be_met_iff (r := rules) (g := .allOf [c]) (c := c) rfl rfl hvalid
  have hparts : Condition.mk (.known .marksPercentage) (.known .between) (.text "40-60") =
    ⟨.known f, .known operator, .text raw⟩ := hc
  cases hparts
  let forty : Binary64 := ⟨false, 0x4044000000000000, by decide⟩
  let sixty : Binary64 := ⟨false, 0x404E000000000000, by decide⟩
  have hrange : rangeOfText? "40-60" = some (forty, sixty) := by decide +kernel
  have hle : forty ≤ sixty := by decide
  have hadmits : FieldKind.number.Admits "40-60" .between := ⟨forty, sixty, hrange, hle⟩
  exact ⟨hissues, hmet.mpr hadmits, hpassed.mpr hadmits⟩

/-- Marks from 60 down to 40 are had by nobody, though nothing is reported. -/
theorem range_from_high_to_low_is_not_met :
    let c : Condition := ⟨.known .marksPercentage, .known .between, .text "60-40"⟩
    let rules : Ruleset := [.allOf [c]]
    rules.issues = [] ∧ ∀ (p : Profile) (today : Date), c.check p today ≠ .satisfied ∧
      ((Group.allOf [c]).evaluate p today).passed = false := by
  intro c rules
  have hissues : rules.issues = [] := by decide +kernel
  let forty : Binary64 := ⟨false, 0x4044000000000000, by decide⟩
  let sixty : Binary64 := ⟨false, 0x404E000000000000, by decide⟩
  have hrange : rangeOfText? "60-40" = some (sixty, forty) := by decide +kernel
  have hnot : ¬ sixty ≤ forty := by decide
  have hnobody : ¬ ∃ (p : Profile) (today : Date), c.check p today = .satisfied := by
    rw [Condition.exists_satisfied_iff]
    rintro ⟨min, max, hread, hreaches⟩
    rw [hrange] at hread
    cases hread
    exact hnot hreaches
  refine ⟨hissues, fun p today => ?_⟩
  have hunmet : c.check p today ≠ .satisfied := fun hmet => hnobody ⟨p, today, hmet⟩
  refine ⟨hunmet, ?_⟩
  rw [← Bool.not_eq_true, Group.passed_allOf_singleton]
  exact hunmet

end Entitlement
