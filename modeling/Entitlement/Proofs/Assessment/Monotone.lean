import Entitlement.Proofs.Assessment.Basic

/-!
# Supplying more never hurts

A profile that supplies every value of another one, and maybe more, meets every condition that the
other meets. Only refusals can change, since what was compared comes out the same; so groups,
score, band, refusals and the list of what is missing can only get better.
-/

namespace Entitlement

/-! ### Profiles that supply more -/

/-- What is there stays as it is, under any function. -/
theorem map_eq_some_of_imp {α β : Type} {old new : Option α} (f : α → β) {b : β}
    (h : ∀ x, old = some x → new = some x) (hb : old.map f = some b) : new.map f = some b := by
  obtain ⟨x, hx, rfl⟩ := Option.map_eq_some_iff.mp hb
  rw [h x hx, Option.map_some]

namespace Profile

/-- Holds when every value that the first profile supplies on the day is the second's as well. -/
def Within (p q : Profile) (today : Date) : Prop :=
  ∀ f a, p.attribute? today f = some a → q.attribute? today f = some a

/-- The second profile is the first with absent attributes filled in. An age is not filled in
where the date of birth already gives one. -/
structure FilledInBy (p q : Profile) (today : Date) : Prop where
  annualIncome : ∀ x, p.annualIncome = some x → q.annualIncome = some x
  dateOfBirth : ∀ x, p.dateOfBirth = some x → q.dateOfBirth = some x
  age : ∀ x, p.age = some x → q.age = some x
  category : ∀ x, p.category = some x → q.category = some x
  state : ∀ x, p.state = some x → q.state = some x
  educationLevel : ∀ x, p.educationLevel = some x → q.educationLevel = some x
  gender : ∀ x, p.gender = some x → q.gender = some x
  minorityStatus : ∀ x, p.minorityStatus = some x → q.minorityStatus = some x
  disabilityStatus : ∀ x, p.disabilityStatus = some x → q.disabilityStatus = some x
  institutionType : ∀ x, p.institutionType = some x → q.institutionType = some x
  marksPercentage : ∀ x, p.marksPercentage = some x → q.marksPercentage = some x
  noOverride : ∀ n, p.age = none → p.age? today = some n → q.age = none

variable {p q : Profile} {today : Date}

theorem FilledInBy.age? (h : p.FilledInBy q today) {n : Int} (hn : p.age? today = some n) :
    q.age? today = some n := by
  cases hp : p.age with
  | some stated =>
    rw [Profile.age?, hp] at hn
    rw [Profile.age?, h.age stated hp]
    exact hn
  | none =>
    have hq : q.age = none := h.noOverride n hp hn
    rw [Profile.age?, hp] at hn
    rw [Profile.age?, hq]
    obtain ⟨birth, hbirth, rfl⟩ := Option.map_eq_some_iff.mp hn
    obtain ⟨text, htext, hread⟩ := Option.bind_eq_some_iff.mp hbirth
    rw [h.dateOfBirth text htext, Option.bind_some, hread, Option.map_some]

theorem FilledInBy.within (h : p.FilledInBy q today) : p.Within q today := by
  intro f a ha
  cases f with
  | annualIncome => exact map_eq_some_of_imp Attribute.number h.annualIncome ha
  | age =>
    obtain ⟨x, hx, rfl⟩ := Option.map_eq_some_iff.mp ha
    obtain ⟨n, hn, hof⟩ := Option.bind_eq_some_iff.mp hx
    rw [attribute?, h.age? hn, Option.bind_some, hof, Option.map_some]
  | category => exact map_eq_some_of_imp Attribute.text h.category ha
  | state => exact map_eq_some_of_imp Attribute.text h.state ha
  | educationLevel => exact map_eq_some_of_imp Attribute.text h.educationLevel ha
  | gender => exact map_eq_some_of_imp Attribute.text h.gender ha
  | minorityStatus => exact map_eq_some_of_imp Attribute.text h.minorityStatus ha
  | disabilityStatus => exact map_eq_some_of_imp Attribute.text h.disabilityStatus ha
  | institutionType => exact map_eq_some_of_imp Attribute.text h.institutionType ha
  | marksPercentage => exact map_eq_some_of_imp Attribute.number h.marksPercentage ha

end Profile

/-! ### Conditions -/

section

variable {p q : Profile} {today : Date} (h : p.Within q today)

include h

theorem Condition.check_eq_of_within {c : Condition} (hr : (c.check p today).isRefused = false) :
    c.check q today = c.check p today :=
  Condition.check_eq_of_not_refused (fun f a _ => h f a) hr

theorem Condition.satisfied_mono {c : Condition} (hc : c.check p today = .satisfied) :
    c.check q today = .satisfied := by
  rw [check_eq_of_within h (by rw [hc]; rfl), hc]

theorem Condition.refused_anti {c : Condition} (hc : (c.check q today).isRefused = true) :
    (c.check p today).isRefused = true := by
  by_contra hp
  rw [check_eq_of_within h (Bool.eq_false_iff.mpr hp)] at hc
  exact hp hc

/-! ### Groups -/

theorem Group.passes_mono {g : Group} (hg : g.Passes p today) : g.Passes q today := by
  rcases hj : g.joiner with (_ | _) | raw <;> rw [Passes, hj] at hg ⊢
  · exact fun c hc => Condition.satisfied_mono h (hg c hc)
  · rcases hg with hnil | ⟨c, hc, hsat⟩
    · exact Or.inl hnil
    · exact Or.inr ⟨c, hc, Condition.satisfied_mono h hsat⟩
  · exact hg

/-- A group that fails for both profiles lists the same rows or fewer for the second. -/
theorem Group.listed_subset (g : Group) : g.listed q today ⊆ g.listed p today := by
  by_cases hq : g.Passes q today
  · rw [listed_of_passes hq]
    exact List.nil_subset _
  · have hp : ¬ g.Passes p today := fun hp => hq (passes_mono h hp)
    cases hj : g.joiner with
    | known joiner =>
      rw [listed_of_not_passes hj hq, listed_of_not_passes hj hp]
      intro c hc
      rw [List.mem_filter, decide_eq_true_iff] at hc ⊢
      exact ⟨hc.1, fun hsat => hc.2 (Condition.satisfied_mono h hsat)⟩
    | unrecognized raw =>
      rw [listed_of_unrecognized hj, listed_of_unrecognized hj]
      exact List.Subset.refl _

theorem Group.refusals_anti (g : Group) : g.refusals q today ≤ g.refusals p today := by
  by_cases hq : g.Passes q today
  · rw [refusals_of_passes hq]
    exact Nat.zero_le _
  · have hp : ¬ g.Passes p today := fun hp => hq (passes_mono h hp)
    cases hj : g.joiner with
    | known joiner =>
      rw [refusals_of_not_passes hj hq, refusals_of_not_passes hj hp]
      exact List.countP_mono_left fun c _ => Condition.refused_anti h
    | unrecognized raw =>
      have hsame : g.refusals q today = g.refusals p today := by
        rw [refusals_of_unrecognized hj, refusals_of_unrecognized hj]
      exact Nat.le_of_eq hsame

/-! ### Rulesets -/

theorem Ruleset.passing_mono (r : Ruleset) : r.passing p today ≤ r.passing q today :=
  List.countP_mono_left fun _ _ hg => Group.passed_iff.mpr
    (Group.passes_mono h (Group.passed_iff.mp hg))

theorem Ruleset.score_mono (r : Ruleset) :
    (r.assess p today).verdict.score ≤ (r.assess q today).verdict.score := by
  by_cases hr : r = []
  · subst hr
    exact Nat.le_refl _
  · rw [assess_score hr, assess_score hr]
    exact roundedPercentage_mono (passing_mono h r) r.length

theorem Ruleset.isEligible_mono (r : Ruleset) (he : (r.assess p today).verdict.isEligible = true) :
    (r.assess q today).verdict.isEligible = true := by
  rw [assess_isEligible_iff, passing_eq_length_iff] at he ⊢
  exact fun g hg => Group.passes_mono h (he g hg)

theorem Ruleset.refusedConditions_anti (r : Ruleset) :
    (r.assess q today).refusedConditions ≤ (r.assess p today).refusedConditions := by
  rw [assess_refusedConditions, assess_refusedConditions]
  induction r with
  | nil => exact Nat.le_refl _
  | cons g r ih =>
    rw [List.map_cons, List.map_cons, List.sum_cons, List.sum_cons]
    exact Nat.add_le_add (Group.refusals_anti h g) ih

theorem Ruleset.missing_subset (r : Ruleset) :
    (r.assess q today).verdict.missing ⊆ (r.assess p today).verdict.missing := by
  intro s hs
  rw [mem_assess_missing] at hs ⊢
  obtain ⟨g, hg, c, hc, hs⟩ := hs
  exact ⟨g, hg, c, Group.listed_subset h g hc, hs⟩

end

/-! ### Bands -/

/-- The place of a band, counted from the worst. -/
def Band.rank : Band → Nat
  | .notEligible => 0
  | .partly => 1
  | .eligible => 2

instance : LE Band := ⟨fun a b => a.rank ≤ b.rank⟩

instance (a b : Band) : Decidable (a ≤ b) := inferInstanceAs (Decidable (a.rank ≤ b.rank))

theorem Band.le_eligible (b : Band) : b ≤ .eligible := by cases b <;> decide

theorem Band.notEligible_le (b : Band) : .notEligible ≤ b := Nat.zero_le b.rank

theorem Verdict.band_mono {v w : Verdict} (threshold : Nat) (hscore : v.score ≤ w.score)
    (hfull : w.score ≤ 100) (heligible : v.isEligible = true → w.isEligible = true) :
    v.band threshold ≤ w.band threshold := by
  by_cases hw : w.isEligible = true ∨ w.score = 100
  · rw [show w.band threshold = .eligible from if_pos hw]
    exact Band.le_eligible _
  · have hv : ¬ (v.isEligible = true ∨ v.score = 100) := by
      rintro (hv | hv)
      · exact hw (Or.inl (heligible hv))
      · exact hw (Or.inr (by omega))
    rw [band, if_neg hv]
    split_ifs with hpart
    · have hw' : threshold < w.score := by omega
      rw [band, if_neg hw, if_pos hw']
      exact Nat.le_refl _
    · exact Band.notEligible_le _

theorem Ruleset.score_le (r : Ruleset) (p : Profile) (today : Date) :
    (r.assess p today).verdict.score ≤ 100 := by
  by_cases hr : r = []
  · subst hr
    exact Nat.le_refl _
  · rw [assess_score hr]
    exact roundedPercentage_le _ _

/-- What the second assessment is to the first when it is at least as good in every respect. -/
structure Assessment.NoBetterThan (a b : Assessment) : Prop where
  matchedGroups : a.matchedGroups ≤ b.matchedGroups
  score : a.verdict.score ≤ b.verdict.score
  isEligible : a.verdict.isEligible = true → b.verdict.isEligible = true
  band : ∀ threshold, a.verdict.band threshold ≤ b.verdict.band threshold
  refusedConditions : b.refusedConditions ≤ a.refusedConditions
  missing : b.verdict.missing ⊆ a.verdict.missing

theorem Ruleset.assess_mono {p q : Profile} {today : Date} (h : p.Within q today) (r : Ruleset) :
    (r.assess p today).NoBetterThan (r.assess q today) where
  matchedGroups := by
    rw [assess_matchedGroups, assess_matchedGroups]
    exact passing_mono h r
  score := score_mono h r
  isEligible := isEligible_mono h r
  band := fun threshold =>
    Verdict.band_mono threshold (score_mono h r) (score_le r q today) (isEligible_mono h r)
  refusedConditions := refusedConditions_anti h r
  missing := missing_subset h r

/-- Supplying more never hurts: conditions and groups that hold go on holding, and assessments get
no worse. Filling in absent attributes is one way to supply more. -/
theorem supplying_more_never_hurts (p q : Profile) (today : Date) :
    (p.FilledInBy q today → p.Within q today) ∧
      (p.Within q today →
        (∀ c : Condition, c.check p today = .satisfied → c.check q today = .satisfied) ∧
        (∀ g : Group, (g.evaluate p today).passed = true → (g.evaluate q today).passed = true) ∧
        ∀ r : Ruleset, (r.assess p today).NoBetterThan (r.assess q today)) := by
  refine ⟨Profile.FilledInBy.within, fun h => ⟨?_, ?_, ?_⟩⟩
  · exact fun c => Condition.satisfied_mono h
  · exact fun g hg => Group.passed_iff.mpr (Group.passes_mono h (Group.passed_iff.mp hg))
  · exact fun r => Ruleset.assess_mono h r

theorem filling_in_an_income_never_hurts :
    let p : Profile := { id := "p-1", category := some "OBC" }
    let q : Profile := { p with annualIncome := some Binary64.zero }
    let today : Date := ⟨2024, 6, 15, by decide, by decide, by decide⟩
    let rules : Ruleset :=
      [.allOf [⟨.known .annualIncome, .known .lessThan, .text "800000"⟩],
       .anyOf [⟨.unrecognized "Caste", .known .equals, .text "OBC"⟩]]
    p.FilledInBy q today ∧ p.Within q today ∧
      (rules.assess p today).NoBetterThan (rules.assess q today) ∧
      (rules.assess p today).matchedGroups = 0 ∧ (rules.assess q today).matchedGroups = 1 := by
  intro p q today rules
  have hfilled : p.FilledInBy q today :=
    { annualIncome := fun _ hx => nomatch hx
      dateOfBirth := fun _ hx => hx
      age := fun _ hx => hx
      category := fun _ hx => hx
      state := fun _ hx => hx
      educationLevel := fun _ hx => hx
      gender := fun _ hx => hx
      minorityStatus := fun _ hx => hx
      disabilityStatus := fun _ hx => hx
      institutionType := fun _ hx => hx
      marksPercentage := fun _ hx => hx
      noOverride := fun _ hx _ => hx }
  have hwithin : p.Within q today := (supplying_more_never_hurts p q today).1 hfilled
  have hmono := (supplying_more_never_hurts p q today).2 hwithin
  exact ⟨hfilled, hwithin, hmono.2.2 rules, by decide +kernel, by decide +kernel⟩

end Entitlement
