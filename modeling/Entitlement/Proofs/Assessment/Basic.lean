import Entitlement.Proofs.Assessment.Percentage
import Entitlement.Proofs.Check.Group
import Mathlib.Algebra.GroupWithZero.Nat
import Mathlib.Data.List.Nodup

/-!
# What an assessment adds up

The verdict and the counts of an assessment, each in terms of the groups: how many pass, which rows
the others list, and how many of those were refused. The rulesets without groups need no case of
their own.
-/

namespace Entitlement

/-! ### Requirements listed once -/

theorem mem_addMissing {missing : List String} {requirement s : String} :
    s ∈ addMissing missing requirement ↔ s ∈ missing ∨ s = requirement := by
  rw [addMissing]
  split_ifs with h
  · have hmem : requirement ∈ missing := List.contains_iff_mem.mp h
    exact ⟨Or.inl, fun hs => hs.elim id fun he => he ▸ hmem⟩
  · rw [List.mem_append, List.mem_singleton]

theorem mem_foldl_addMissing {s : String} : ∀ {requirements missing : List String},
    s ∈ requirements.foldl addMissing missing ↔ s ∈ missing ∨ s ∈ requirements
  | [], missing => by simp
  | requirement :: requirements, missing => by
    rw [List.foldl_cons, mem_foldl_addMissing, mem_addMissing, List.mem_cons, or_assoc]

theorem nodup_addMissing {missing : List String} (h : missing.Nodup) (requirement : String) :
    (addMissing missing requirement).Nodup := by
  rw [addMissing]
  split_ifs with hmem
  · exact h
  · rw [← List.concat_eq_append]
    exact List.Nodup.concat (fun hold => hmem (List.contains_iff_mem.mpr hold)) h

theorem nodup_foldl_addMissing : ∀ {requirements missing : List String}, missing.Nodup →
    (requirements.foldl addMissing missing).Nodup
  | [], _, h => h
  | requirement :: requirements, _, h => by
    rw [List.foldl_cons]
    exact nodup_foldl_addMissing (nodup_addMissing h requirement)

namespace Ruleset

variable {r : Ruleset} {p : Profile} {today : Date}

/-- How many groups pass. -/
def passing (r : Ruleset) (p : Profile) (today : Date) : Nat :=
  r.countP fun g => (g.evaluate p today).passed

/-- How many groups fail. -/
def failing (r : Ruleset) (p : Profile) (today : Date) : Nat :=
  r.countP fun g => !(g.evaluate p today).passed

/-- The rows listed by failing groups, group by group. -/
def listed (r : Ruleset) (p : Profile) (today : Date) : List Condition :=
  r.flatMap fun g => g.listed p today

theorem passing_le (r : Ruleset) (p : Profile) (today : Date) : r.passing p today ≤ r.length :=
  List.countP_le_length

theorem passing_eq_length_iff : r.passing p today = r.length ↔ ∀ g ∈ r, g.Passes p today := by
  rw [passing, List.countP_eq_length]
  exact forall₂_congr fun g _ => Group.passed_iff

theorem passing_add_failing (r : Ruleset) (p : Profile) (today : Date) :
    r.passing p today + r.failing p today = r.length := by
  rw [passing, failing, List.length_eq_countP_add_countP (fun g => (g.evaluate p today).passed)]
  simp

theorem failing_eq_zero_iff :
    r.failing p today = 0 ↔ ∀ g ∈ r, (g.evaluate p today).passed = true := by
  rw [failing, List.countP_eq_zero]
  exact forall₂_congr fun g _ => by simp

/-- Groups that pass list nothing, so that they can be left out or not. -/
theorem failures_eq (r : Ruleset) (p : Profile) (today : Date) :
    ((r.map fun g => g.evaluate p today).filter (!·.passed)).flatMap (·.failures) =
      r.flatMap fun g => (g.evaluate p today).failures := by
  induction r with
  | nil => rfl
  | cons g r ih =>
    rw [List.map_cons, List.filter_cons, List.flatMap_cons, ← ih]
    by_cases h : (g.evaluate p today).passed = true
    · rw [Group.failures_of_passes (Group.passed_iff.mp h)]
      simp [h]
    · simp [h]

/-! ### The parts of an assessment -/

/-- An assessment sees nothing of the groups, the profile and the day but what comes of each
group. -/
theorem assess_congr_of_results {r s : Ruleset} {p q : Profile} {today later : Date}
    (h : (r.map fun g => g.evaluate p today) = s.map fun g => g.evaluate q later) :
    r.assess p today = s.assess q later := by
  have hlength : r.length = s.length := by simpa using congrArg List.length h
  have hempty : r.isEmpty = s.isEmpty := by simpa using congrArg List.isEmpty h
  rw [assess, assess, h, hlength, hempty]

theorem assess_matchedGroups (r : Ruleset) (p : Profile) (today : Date) :
    (r.assess p today).matchedGroups = r.passing p today := by
  rw [assess, passing]
  split_ifs with h
  · rw [List.isEmpty_iff.mp h]
    rfl
  · dsimp only
    rw [← List.countP_eq_length_filter, List.countP_map]
    rfl

theorem assess_totalGroups (r : Ruleset) (p : Profile) (today : Date) :
    (r.assess p today).totalGroups = r.length := by
  rw [assess]
  split_ifs with h
  · rw [List.isEmpty_iff.mp h]
    rfl
  · rfl

theorem assess_isEligible_iff :
    (r.assess p today).verdict.isEligible = true ↔ r.passing p today = r.length := by
  have hmatched := assess_matchedGroups r p today
  rw [assess] at hmatched ⊢
  split_ifs at hmatched ⊢ with h
  · rw [← hmatched, List.isEmpty_iff.mp h]
    exact iff_of_true rfl rfl
  · rw [← hmatched]
    exact decide_eq_true_iff

theorem assess_isEligible_iff_forall :
    (r.assess p today).verdict.isEligible = true ↔
      ∀ g ∈ r, (g.evaluate p today).passed = true := by
  rw [assess_isEligible_iff, passing_eq_length_iff]
  exact forall₂_congr fun g _ => Group.passed_iff.symm

theorem assess_score (h : r ≠ []) :
    (r.assess p today).verdict.score = roundedPercentage (r.passing p today) r.length := by
  have hmatched := assess_matchedGroups r p today
  rw [assess, if_neg fun he => h (List.isEmpty_iff.mp he)] at hmatched ⊢
  rw [← hmatched]

theorem assess_missing (r : Ruleset) (p : Profile) (today : Date) :
    (r.assess p today).verdict.missing =
      ((r.listed p today).map Condition.describe).foldl addMissing [] := by
  rw [assess]
  split_ifs with h
  · rw [List.isEmpty_iff.mp h]
    rfl
  · dsimp only
    rw [failures_eq, listed, List.map_flatMap, List.map_flatMap]
    simp only [Group.listed, List.map_map, Function.comp_def]

theorem assess_refusedConditions (r : Ruleset) (p : Profile) (today : Date) :
    (r.assess p today).refusedConditions = (r.map fun g => g.refusals p today).sum := by
  rw [assess]
  split_ifs with h
  · rw [List.isEmpty_iff.mp h]
    rfl
  · dsimp only
    rw [failures_eq, ← List.countP_eq_length_filter, List.countP_flatMap]
    rfl

theorem mem_assess_missing {s : String} :
    s ∈ (r.assess p today).verdict.missing ↔ ∃ g ∈ r, ∃ c ∈ g.listed p today, c.describe = s := by
  rw [assess_missing, mem_foldl_addMissing, List.mem_map]
  constructor
  · rintro (h | ⟨c, hc, rfl⟩)
    · exact absurd h List.not_mem_nil
    · obtain ⟨g, hg, hcg⟩ := List.mem_flatMap.mp hc
      exact ⟨g, hg, c, hcg, rfl⟩
  · rintro ⟨g, hg, c, hc, rfl⟩
    exact Or.inr ⟨c, List.mem_flatMap.mpr ⟨g, hg, hc⟩, rfl⟩

/-! ### The band -/

/-- The best band is for those who pass all groups and, because of the rounding, for those who fail
at most one group in two hundred. The threshold has no part in it. -/
theorem assess_band_eq_eligible_iff {threshold : Nat} :
    (r.assess p today).verdict.band threshold = .eligible ↔
      200 * r.failing p today ≤ r.length := by
  have hsum := passing_add_failing r p today
  have hband : (r.assess p today).verdict.band threshold = .eligible ↔
      (r.assess p today).verdict.isEligible = true ∨ (r.assess p today).verdict.score = 100 := by
    rw [Verdict.band]
    split_ifs with hbest hpartly
    · exact iff_of_true rfl hbest
    · exact iff_of_false (by simp) hbest
    · exact iff_of_false (by simp) hbest
  rw [hband, assess_isEligible_iff]
  rcases eq_or_ne r [] with rfl | hr
  · exact iff_of_true (Or.inl rfl) (Nat.le_refl 0)
  · have hpos : 0 < r.length := List.length_pos_iff.mpr hr
    rw [assess_score hr, roundedPercentage_eq_hundred_iff hpos (passing_le r p today)]
    omega

/-- Below two hundred groups the rounding reaches 100 only when all groups pass. -/
theorem assess_band_eq_eligible_iff_forall {threshold : Nat} (hfew : r.length < 200) :
    (r.assess p today).verdict.band threshold = .eligible ↔
      ∀ g ∈ r, (g.evaluate p today).passed = true := by
  rw [assess_band_eq_eligible_iff, ← failing_eq_zero_iff]
  omega

end Ruleset

end Entitlement
