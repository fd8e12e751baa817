import Entitlement.Proofs.Assessment.Dependence
import Entitlement.Proofs.Number.Value
import Entitlement.Proofs.Validation.Rows

/-!
# Stated ages

A stated age counts before the date of birth, whatever that is, and on every day. So neither the
date of birth nor the day can change an assessment. The age itself is taken as a number with a sign
in 32 bits: one below 2^31 is the value of the field, and a larger one leaves the field without any
value, as if nothing had been stated.
-/

namespace Entitlement

namespace Profile

variable {p : Profile} {n : UInt32}

/-- The profile with another date of birth, or without one. -/
def bornOn (p : Profile) (birth : Option String) : Profile :=
  { p with dateOfBirth := birth }

theorem attribute?_age_of_lt (hage : p.age = some n) (hn : n.toNat < 2 ^ 31) (today : Date) :
    p.attribute? today .age = (Binary64.ofInt? n.toNat).map .number := by
  rw [attribute?, age?, hage]
  dsimp only
  rw [if_pos hn, Option.bind_some]

theorem attribute?_age_of_not_lt (hage : p.age = some n) (hn : ¬ n.toNat < 2 ^ 31) (today : Date) :
    p.attribute? today .age = none := by
  rw [attribute?, age?, hage]
  dsimp only
  rw [if_neg hn]
  rfl

/-- An age below 2^31 is taken as it is stated. -/
theorem exists_age_of_lt (hage : p.age = some n) (hn : n.toNat < 2 ^ 31) :
    ∃ x : Binary64, x.value = n.toNat ∧
      ∀ birth today, (p.bornOn birth).attribute? today .age = some (.number x) := by
  have hsmall : (n.toNat : Int).natAbs < 2 ^ 53 := by omega
  obtain ⟨x, hx, hvalue⟩ := Binary64.exists_value_eq hsmall
  refine ⟨x, by exact_mod_cast hvalue, fun birth today => ?_⟩
  have hstated : (p.bornOn birth).age = some n := hage
  rw [attribute?_age_of_lt hstated hn, hx, Option.map_some]

/-- Neither the date of birth nor the day has a part in any value. -/
theorem attribute?_bornOn (hage : p.age = some n) (birth : Option String) (today later : Date)
    (f : Field) : (p.bornOn birth).attribute? later f = p.attribute? today f := by
  refine attribute?_eq_of_statesAlike ?_ (Or.inr (Or.inr ?_))
  · cases f with
    | age => exact ⟨rfl, fun hnone => absurd (hage.symm.trans hnone) nofun⟩
    | annualIncome | category | state | educationLevel | gender | minorityStatus
    | disabilityStatus | institutionType | marksPercentage => rfl
  · exact fun hnone => absurd (hage.symm.trans hnone) nofun

end Profile

/-! ### Refusals -/

/-- Reading a value refuses nothing but the value. -/
theorem Comparison.read_error {operator : Operator} {raw : String} {reason : Refusal}
    (h : read operator raw = .error reason) :
    reason = .nonNumericTarget raw ∨ reason = .malformedRange raw := by
  cases operator with
  | equals | notEquals | includes => cases h
  | lessThan | greaterThan =>
    rw [read] at h
    split at h
    · cases h
    · cases h
      exact Or.inl rfl
  | between =>
    rw [read] at h
    split at h
    · cases h
    · cases h
      exact Or.inr rfl

/-- Nobody who supplies the field of a condition is refused for want of a value. -/
theorem Condition.check_ne_missing {c : Condition} {p : Profile} {today : Date}
    (hs : c.SuppliedBy p today) (f : Field) :
    c.check p today ≠ .refused (.missingAttribute f) := by
  intro hmissing
  rcases c with ⟨field | raw, operator | raw, target | json⟩
  case known.known.text =>
    obtain ⟨a, ha⟩ := hs field rfl
    rw [check_eq_evaluate ha, Operator.evaluate] at hmissing
    cases hread : Comparison.read operator target with
    | error reason =>
      rw [hread, Except.bind, Outcome.ofTest] at hmissing
      cases hmissing
      rcases Comparison.read_error hread with h | h <;> cases h
    | ok comparison =>
      rw [hread, Except.bind] at hmissing
      cases htest : comparison.test a with
      | error reason =>
        rw [htest, Outcome.ofTest] at hmissing
        cases hmissing
        cases Comparison.test_error htest
      | ok holds =>
        rw [htest, Outcome.ofTest_ok] at hmissing
        split_ifs at hmissing
  all_goals cases hmissing

/-! ### The stated age -/

/-- A stated age is the age on every day and with every date of birth just if it is below 2^31, and
just then no condition on the age is refused for want of one. Whatever age is stated, neither the
date of birth nor the day can change an assessment. -/
theorem stated_age_counts_iff {p : Profile} {n : UInt32} (hage : p.age = some n) :
    ((∃ x : Binary64, x.value = n.toNat ∧
      ∀ birth today, (p.bornOn birth).attribute? today .age = some (.number x)) ↔
        n.toNat < 2 ^ 31) ∧
    ((∀ (c : Condition) birth today, c.field = .known .age →
      c.check (p.bornOn birth) today ≠ .refused (.missingAttribute .age)) ↔ n.toNat < 2 ^ 31) ∧
    ∀ (r : Ruleset) birth today later,
      r.assess (p.bornOn birth) later = r.assess p today := by
  refine ⟨⟨?_, Profile.exists_age_of_lt hage⟩, ⟨?_, ?_⟩, ?_⟩
  · rintro ⟨x, -, hx⟩
    by_contra hlarge
    have hnone := Profile.attribute?_age_of_not_lt (p := p.bornOn none) hage hlarge .last
    rw [hx none .last] at hnone
    cases hnone
  · intro hnever
    by_contra hlarge
    have hnone := Profile.attribute?_age_of_not_lt (p := p.bornOn none) hage hlarge .last
    have hrow : (Condition.mk (.known .age) (.known .equals) (.text "")).question =
        .ok (.age, .equals (Text.lowered "")) := rfl
    exact hnever _ none .last rfl (Condition.check_of_no_attribute hrow hnone)
  · intro hn c birth today hfield
    obtain ⟨x, -, hx⟩ := Profile.exists_age_of_lt hage hn
    refine Condition.check_ne_missing (fun f hf => ?_) .age
    rw [hfield] at hf
    cases hf
    exact ⟨_, hx birth today⟩
  · intro r birth today later
    refine Ruleset.assess_eq_of_mentioned fun f _ => ?_
    exact Profile.attribute?_bornOn hage birth today later f

/-- An age of 30 counts before the date of birth of somebody who is 19. -/
theorem stated_age_of_thirty :
    let p : Profile := { id := "p-1", age := some 30, dateOfBirth := some "2005-01-01" }
    let today : Date := ⟨2024, 6, 15, by decide, by decide, by decide⟩
    let rules : Ruleset := [.allOf [⟨.known .age, .known .lessThan, .text "20"⟩]]
    p.age = some 30 ∧ (30 : UInt32).toNat < 2 ^ 31 ∧
      (∃ x : Binary64, x.value = (30 : UInt32).toNat ∧
        p.attribute? today .age = some (.number x)) ∧
      (Condition.mk (.known .age) (.known .between) (.text "30")).check p today ≠
        .refused (.missingAttribute .age) ∧
      rules.assess (p.bornOn (some "an hour ago")) .last = rules.assess p today := by
  intro p today rules
  have hage : p.age = some 30 := rfl
  have hn : (30 : UInt32).toNat < 2 ^ 31 := by decide
  obtain ⟨hvalue, hnever, hsame⟩ := stated_age_counts_iff hage
  obtain ⟨x, hx, hall⟩ := hvalue.mpr hn
  exact ⟨hage, hn, ⟨x, hx, hall (some "2005-01-01") today⟩,
    hnever.mpr hn _ (some "2005-01-01") today rfl, hsame rules _ today .last⟩

/-- An age of 2147483648 leaves the field without a value, though the date of birth gives one. -/
theorem large_stated_age_counts_for_nothing :
    let p : Profile := { id := "p-1", age := some 2147483648, dateOfBirth := some "2005-01-01" }
    let today : Date := ⟨2024, 6, 15, by decide, by decide, by decide⟩
    ({ p with age := none }).age? today = some 19 ∧ p.attribute? today .age = none ∧
      (Condition.mk (.known .age) (.known .greaterThan) (.text "18")).check p today =
        .refused (.missingAttribute .age) := by
  decide +kernel

end Entitlement
