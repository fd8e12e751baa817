import Entitlement.Proofs.Assessment.Basic

/-!
# What a verdict depends on

A ruleset asks for the fields that its rows are on, and profiles reach it through the values of
those fields only. So whatever else two profiles state, and on whatever days they are assessed,
equal values give equal assessments. The day is one more thing that counts only through a value:
that of the age, where it is worked out from the date of birth.
-/

namespace Entitlement

/-- Holds of the fields that some row of the ruleset is on. -/
def Ruleset.Mentions (r : Ruleset) (f : Field) : Prop :=
  ∃ g ∈ r, ∃ c ∈ g.rows, c.field = .known f

/-- Holds when two profiles state the same for a field. For the age that is the age itself, or the
date of birth where neither states an age. -/
def Profile.StatesAlike (p q : Profile) : Field → Prop
  | .annualIncome => p.annualIncome = q.annualIncome
  | .age => p.age = q.age ∧ (p.age = none → p.dateOfBirth = q.dateOfBirth)
  | .category => p.category = q.category
  | .state => p.state = q.state
  | .educationLevel => p.educationLevel = q.educationLevel
  | .gender => p.gender = q.gender
  | .minorityStatus => p.minorityStatus = q.minorityStatus
  | .disabilityStatus => p.disabilityStatus = q.disabilityStatus
  | .institutionType => p.institutionType = q.institutionType
  | .marksPercentage => p.marksPercentage = q.marksPercentage

variable {p q : Profile} {today later : Date}

/-! ### From stated data to values -/

/-- The day matters for the age alone, and there only while no age is stated. -/
theorem Profile.attribute?_eq_of_statesAlike {f : Field} (h : p.StatesAlike q f)
    (hday : today = later ∨ f ≠ .age ∨ p.age ≠ none) :
    p.attribute? today f = q.attribute? later f := by
  cases f with
  | age =>
    obtain ⟨hage, hbirth⟩ := h
    have hsame : p.age? today = q.age? later := by
      cases hp : p.age with
      | some stated => rw [age?, age?, ← hage, hp]
      | none =>
        have htoday : today = later := by simpa [hp] using hday
        rw [age?, age?, ← hage, hp, ← hbirth hp, htoday]
    rw [attribute?, attribute?, hsame]
  | annualIncome | category | state | educationLevel | gender | minorityStatus
  | disabilityStatus | institutionType | marksPercentage =>
    rw [StatesAlike] at h
    rw [attribute?, attribute?, h]

/-! ### From values to verdicts -/

theorem Condition.check_congr {c : Condition}
    (h : ∀ f, c.field = .known f → p.attribute? today f = q.attribute? later f) :
    c.check p today = c.check q later := by
  cases hf : c.field with
  | unrecognized raw => rw [check, check, hf]
  | known f => simp only [check, hf, h f hf]

theorem Group.unmet_congr {g : Group} (h : ∀ c ∈ g.rows, c.check p today = c.check q later) :
    g.unmet p today = g.unmet q later := by
  rw [unmet, unmet]
  refine List.filterMap_congr fun c hc => ?_
  rw [h c hc]

/-- Where the joiner is not recognized the rows are not looked at. -/
theorem Group.evaluate_congr {g : Group} (h : ∀ c ∈ g.rows, c.check p today = c.check q later) :
    g.evaluate p today = g.evaluate q later := by
  rw [evaluate, evaluate, unmet_congr h]

theorem Ruleset.assess_congr {r : Ruleset}
    (h : ∀ g ∈ r, g.evaluate p today = g.evaluate q later) :
    r.assess p today = r.assess q later :=
  assess_congr_of_results (List.map_congr_left h)

theorem Ruleset.assess_eq_of_mentioned {r : Ruleset}
    (h : ∀ f, r.Mentions f → p.attribute? today f = q.attribute? later f) :
    r.assess p today = r.assess q later := by
  refine assess_congr fun g hg => Group.evaluate_congr fun c hc => Condition.check_congr ?_
  exact fun f hf => h f ⟨g, hg, c, hc, hf⟩

/-- Assessments are equal when every field that the rules mention has the same value. In particular
they are when both profiles state the same for those fields, on one day or where the day cannot
matter: the id, the role, all else that is stated and the day itself have no part in them. -/
theorem verdict_depends_on_mentioned_values_only (r : Ruleset) (p q : Profile)
    (today later : Date) :
    ((∀ f, r.Mentions f → p.attribute? today f = q.attribute? later f) →
      r.assess p today = r.assess q later ∧
      ∀ threshold, (r.assess p today).verdict.band threshold =
        (r.assess q later).verdict.band threshold) ∧
    ((∀ f, r.Mentions f → p.StatesAlike q f) →
      (today = later ∨ ¬ r.Mentions .age ∨ ∃ n, p.age = some n ∧ q.age = some n) →
      r.assess p today = r.assess q later) ∧
    ∀ id role, r.assess { p with id, role } today = r.assess p today := by
  refine ⟨fun h => ?_, fun h hday => ?_, fun id role => ?_⟩
  · have hsame := Ruleset.assess_eq_of_mentioned h
    exact ⟨hsame, fun threshold => by rw [hsame]⟩
  · refine Ruleset.assess_eq_of_mentioned fun f hf => ?_
    refine Profile.attribute?_eq_of_statesAlike (h f hf) (hday.imp_right ?_)
    rintro (hnever | ⟨n, hp, _⟩)
    · exact Or.inl fun hage => hnever (hage ▸ hf)
    · exact Or.inr (by simp [hp])
  · refine Ruleset.assess_eq_of_mentioned fun f _ => ?_
    cases f <;> rfl

/-- A student and an administrator with different incomes, years apart: the rules ask for the age,
which both state, and for the state. -/
theorem strangers_of_one_age_and_state_are_assessed_alike :
    let p : Profile := { id := "p-1", age := some 19, state := some "Kerala" }
    let q : Profile :=
      { id := "p-2", role := .admin, annualIncome := some Binary64.zero, age := some 19,
        dateOfBirth := some "1990-01-01", state := some "Kerala" }
    let today : Date := ⟨2024, 6, 15, by decide, by decide, by decide⟩
    let later : Date := ⟨2031, 1, 1, by decide, by decide, by decide⟩
    let r : Ruleset :=
      [.allOf [⟨.known .age, .known .lessThan, .text "18"⟩],
       .anyOf [⟨.known .state, .known .equals, .text "Goa"⟩,
         ⟨.unrecognized "Caste", .known .equals, .text "OBC"⟩]]
    (∀ f, r.Mentions f → p.attribute? today f = q.attribute? later f) ∧
      (∀ f, r.Mentions f → p.StatesAlike q f) ∧
      (today = later ∨ ¬ r.Mentions .age ∨ ∃ n, p.age = some n ∧ q.age = some n) ∧
      r.assess p today = r.assess q later ∧
      (r.assess p today).verdict.band 50 = (r.assess q later).verdict.band 50 := by
  intro p q today later r
  have hmentions : ∀ f, r.Mentions f → f = .age ∨ f = .state := by
    rintro f ⟨g, hg, c, hc, hf⟩
    simp only [r, Group.allOf, Group.anyOf, List.mem_cons, List.not_mem_nil, or_false] at hg
    rcases hg with rfl | rfl
    · obtain rfl := List.mem_singleton.mp hc
      cases hf
      exact Or.inl rfl
    · simp only [List.mem_cons, List.not_mem_nil, or_false] at hc
      rcases hc with rfl | rfl <;> cases hf
      exact Or.inr rfl
  have hvalues : ∀ f, r.Mentions f → p.attribute? today f = q.attribute? later f := by
    intro f hf
    rcases hmentions f hf with rfl | rfl <;> rfl
  have hstated : ∀ f, r.Mentions f → p.StatesAlike q f := by
    intro f hf
    rcases hmentions f hf with rfl | rfl
    · exact ⟨rfl, fun h => nomatch h⟩
    · rfl
  have hday : today = later ∨ ¬ r.Mentions .age ∨ ∃ n, p.age = some n ∧ q.age = some n :=
    Or.inr (Or.inr ⟨19, rfl, rfl⟩)
  obtain ⟨hassess, hband⟩ :=
    (verdict_depends_on_mentioned_values_only r p q today later).1 hvalues
  exact ⟨hvalues, hstated, hday, hassess, hband 50⟩

end Entitlement
