import Entitlement.Check.Condition

/-!
# What a check depends on

A condition by itself already says what it asks of which field, or why it can ask nothing. The
profile and the day come in through the value of that one field only. So a condition that can ask
nothing is refused for everybody, and an outcome that is no refusal stays for every profile that
supplies the same value.
-/

namespace Entitlement

/-- The outcome of a test. -/
def Outcome.ofTest : Except Refusal Bool → Outcome
  | .ok true => .satisfied
  | .ok false => .unsatisfied
  | .error reason => .refused reason

theorem Outcome.ofTest_ok (holds : Bool) :
    Outcome.ofTest (.ok holds) = if holds then .satisfied else .unsatisfied := by
  cases holds <;> rfl

/-- What an operator says of an attribute and the text of a rule's value. -/
def Operator.evaluate (operator : Operator) (raw : String) (a : Attribute) : Except Refusal Bool :=
  (Comparison.read operator raw).bind fun comparison => comparison.test a

namespace Condition

/-- What a condition asks of which field, or why it can ask nothing. -/
def question (c : Condition) : Except Refusal (Field × Comparison) :=
  match c.field with
  | .unrecognized raw => .error (.unrecognizedField raw)
  | .known field =>
    match c.operator with
    | .unrecognized raw => .error (.unrecognizedOperator raw)
    | .known operator =>
      match c.value with
      | .unsupported json => .error (.unsupportedValue json)
      | .text target =>
        match Comparison.read operator target with
        | .ok comparison => .ok (field, comparison)
        | .error reason => .error reason

/-- Holds when the profile supplies the field that the condition is on, if that is recognized. -/
def SuppliedBy (c : Condition) (p : Profile) (today : Date) : Prop :=
  ∀ f, c.field = .known f → ∃ a, p.attribute? today f = some a

variable {c : Condition} {p q : Profile} {today later : Date}

/-- A condition that asks something has a recognized field and operator and a readable value. -/
theorem question_ok {f : Field} {comparison : Comparison} (h : c.question = .ok (f, comparison)) :
    ∃ operator target, c = ⟨.known f, .known operator, .text target⟩ ∧
      Comparison.read operator target = .ok comparison := by
  rcases c with ⟨field | raw, operator | raw, target | json⟩
  case known.known.text =>
    cases hread : Comparison.read operator target with
    | error reason => simp only [question, hread] at h; cases h
    | ok read =>
      simp only [question, hread] at h
      cases h
      exact ⟨operator, target, rfl, hread⟩
  all_goals cases h

/-! ### Conditions that ask something -/

theorem check_eq_evaluate {f : Field} {a : Attribute} (ha : p.attribute? today f = some a)
    (operator : Operator) (raw : String) :
    (Condition.mk (.known f) (.known operator) (.text raw)).check p today =
      .ofTest (operator.evaluate raw a) := by
  simp only [check, ha]
  rw [← Operator.evaluate]
  rcases operator.evaluate raw a with reason | _ | _ <;> rfl

/-- A row is met just if its operator says so of the attribute that its field has. -/
theorem satisfied_iff_evaluate {f : Field} {a : Attribute} (ha : p.attribute? today f = some a)
    (operator : Operator) (raw : String) :
    (Condition.mk (.known f) (.known operator) (.text raw)).check p today = .satisfied ↔
      operator.evaluate raw a = .ok true := by
  rw [check_eq_evaluate ha]
  rcases operator.evaluate raw a with reason | _ | _ <;> simp [Outcome.ofTest]

theorem check_of_attribute {f : Field} {comparison : Comparison} {a : Attribute}
    (h : c.question = .ok (f, comparison)) (ha : p.attribute? today f = some a) :
    c.check p today = .ofTest (comparison.test a) := by
  obtain ⟨operator, target, rfl, hread⟩ := question_ok h
  rw [check_eq_evaluate ha, Operator.evaluate, hread, Except.bind]

/-- A row that asks for a text is met by those whose value has the same lower case. -/
theorem check_equals {f : Field} {a : Attribute} {t : String}
    (ha : p.attribute? today f = some a) :
    (Condition.mk (.known f) (.known .equals) (.text t)).check p today =
      if Text.lowered a.shown = Text.lowered t then .satisfied else .unsatisfied := by
  have hsays : Operator.equals.evaluate t a =
      .ok (decide (Text.lowered a.shown = Text.lowered t)) := rfl
  rw [check_eq_evaluate ha, hsays, Outcome.ofTest_ok]
  simp only [decide_eq_true_eq]

theorem check_notEquals {f : Field} {a : Attribute} {t : String}
    (ha : p.attribute? today f = some a) :
    (Condition.mk (.known f) (.known .notEquals) (.text t)).check p today =
      if Text.lowered a.shown = Text.lowered t then .unsatisfied else .satisfied := by
  have hsays : Operator.notEquals.evaluate t a =
      .ok (decide (Text.lowered a.shown ≠ Text.lowered t)) := rfl
  rw [check_eq_evaluate ha, hsays, Outcome.ofTest_ok]
  simp only [decide_eq_true_eq, ite_not]

theorem check_includes {f : Field} {a : Attribute} {t : String}
    (ha : p.attribute? today f = some a) :
    (Condition.mk (.known f) (.known .includes) (.text t)).check p today =
      if occursIn (Text.lowered t).toList (Text.lowered a.shown).toList then .satisfied
      else .unsatisfied := by
  have hsays : Operator.includes.evaluate t a =
      .ok (occursIn (Text.lowered t).toList (Text.lowered a.shown).toList) := rfl
  rw [check_eq_evaluate ha, hsays, Outcome.ofTest_ok]

theorem check_of_no_attribute {f : Field} {comparison : Comparison}
    (h : c.question = .ok (f, comparison)) (ha : p.attribute? today f = none) :
    c.check p today = .refused (.missingAttribute f) := by
  obtain ⟨operator, target, rfl, hread⟩ := question_ok h
  simp only [check, ha]

/-- Where the profile has no value, no operator can make a row hold. -/
theorem not_satisfied_of_no_attribute {f : Field} (hf : p.attribute? today f = none)
    (operator : Operator) (value : RuleValue) :
    (Condition.mk (.known f) (.known operator) value).check p today ≠ .satisfied := by
  cases value <;> simp [check, hf]

/-! ### Conditions that ask nothing -/

/-- Why a condition asks nothing is looked at in the order of its parts, as a check does; only
whether the profile has the attribute comes in between. -/
theorem check_of_question_error {reason : Refusal} (h : c.question = .error reason)
    (hs : c.SuppliedBy p today) : c.check p today = .refused reason := by
  rcases c with ⟨field | raw, operator | raw, target | json⟩
  case known.known.text =>
    obtain ⟨a, ha⟩ := hs field rfl
    cases hread : Comparison.read operator target with
    | error _ =>
      simp only [question, hread] at h
      cases h
      rw [check_eq_evaluate ha, Operator.evaluate, hread, Except.bind, Outcome.ofTest]
    | ok _ => simp only [question, hread] at h; cases h
  all_goals cases h; rfl

/-- A condition that asks nothing is refused for everybody. -/
theorem exists_refused_of_question_error {reason : Refusal} (h : c.question = .error reason)
    (p : Profile) (today : Date) : ∃ why, c.check p today = .refused why := by
  rcases c with ⟨field | raw, operator | raw, target | json⟩
  case known.known.text =>
    cases ha : p.attribute? today field with
    | none => exact ⟨.missingAttribute field, by simp only [check, ha]⟩
    | some a =>
      refine ⟨reason, check_of_question_error h ?_⟩
      intro f hf
      cases hf
      exact ⟨a, ha⟩
  all_goals exact ⟨reason, by cases h; rfl⟩

/-! ### Profiles that supply the same value -/

/-- What was compared for one profile comes out the same for any other that supplies the value. -/
theorem check_eq_of_not_refused
    (hpq : ∀ f a, c.field = .known f → p.attribute? today f = some a →
      q.attribute? later f = some a)
    (hr : (c.check p today).isRefused = false) : c.check q later = c.check p today := by
  cases hc : c.question with
  | error reason =>
    obtain ⟨why, hwhy⟩ := exists_refused_of_question_error hc p today
    rw [hwhy] at hr
    cases hr
  | ok asked =>
    obtain ⟨f, comparison⟩ := asked
    cases ha : p.attribute? today f with
    | none =>
      rw [check_of_no_attribute hc ha] at hr
      cases hr
    | some a =>
      obtain ⟨operator, target, hfield, _⟩ := question_ok hc
      have haq : q.attribute? later f = some a := hpq f a (by rw [hfield]) ha
      rw [check_of_attribute hc ha, check_of_attribute hc haq]

end Condition

end Entitlement
