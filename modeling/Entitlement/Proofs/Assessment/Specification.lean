import Entitlement.Proofs.Assessment.Basic
import Mathlib.Data.List.Induction

/-!
# What an assessment has to say

The verdict and the counts by themselves, without the walk over the groups: which groups pass is
said by their rows, and what a failing group has to show for it by its joiner. The assessment then
lists what all failing groups show, each requirement where it comes first.
-/

namespace Entitlement

/-! ### Requirements listed once -/

/-- Adding requirements one by one keeps the first occurrence of each. -/
theorem foldl_addMissing_eq_eraseDups (requirements : List String) :
    requirements.foldl addMissing [] = requirements.eraseDups := by
  -- from the end, as the last requirement is looked up among those kept before it
  induction requirements using List.reverseRecOn with
  | nil => rfl
  | append_singleton requirements last ih =>
    rw [List.foldl_append, List.foldl_cons, List.foldl_nil, ih, List.eraseDups_append, addMissing]
    by_cases hmem : last ∈ requirements
    · simp [hmem, List.removeAll]
    · simp [hmem, List.removeAll, List.eraseDups_cons]

/-! ### What a failing group shows -/

namespace Group

variable {g : Group} {p : Profile} {today : Date}

/-- The rows that a group shows when it fails: those that are unmet if it asks for all of them, and
otherwise every row. -/
def requirements (g : Group) (p : Profile) (today : Date) : List Condition :=
  match g.joiner with
  | .known .all => g.rows.filter fun c => c.check p today ≠ .satisfied
  | .known .any => g.rows
  | .unrecognized _ => g.rows

/-- Holds of the rows that count as refused in their group: those whose check is refused for some
reason. Where the joiner is not recognized each row does, whatever a check of it would say. -/
def Refuses (g : Group) (p : Profile) (today : Date) (c : Condition) : Prop :=
  match g.joiner with
  | .known _ => ∃ reason, c.check p today = .refused reason
  | .unrecognized _ => True

instance (g : Group) (p : Profile) (today : Date) : DecidablePred (g.Refuses p today) :=
  match g with
  | ⟨.known _, _⟩ => fun _ => decidable_of_iff _ Outcome.isRefused_iff
  | ⟨.unrecognized _, _⟩ => fun _ => inferInstanceAs (Decidable True)

theorem refuses_iff {joiner : Joiner} {c : Condition} (hj : g.joiner = .known joiner) :
    g.Refuses p today c ↔ (c.check p today).isRefused = true := by
  rw [Outcome.isRefused_iff, Refuses, hj]

/-- Where any row would do, the rows that are unmet in a failing group are all of them. -/
theorem filter_unmet_of_any (hj : g.joiner = .known .any) (h : ¬ g.Passes p today) :
    (g.rows.filter fun c => c.check p today ≠ .satisfied) = g.rows := by
  rw [List.filter_eq_self]
  intro c hc
  rw [decide_eq_true_iff]
  intro hsat
  rw [Passes, hj] at h
  exact h (Or.inr ⟨c, hc, hsat⟩)

theorem listed_eq_requirements (h : ¬ g.Passes p today) :
    g.listed p today = g.requirements p today := by
  rcases hj : g.joiner with (_ | _) | raw <;> rw [requirements, hj]
  · exact listed_of_not_passes hj h
  · rw [listed_of_not_passes hj h, filter_unmet_of_any hj h]
  · exact listed_of_unrecognized hj

/-- A refused row is unmet, so that leaving out the rows that are met loses no refusal. -/
theorem refusals_eq_countP (h : ¬ g.Passes p today) :
    g.refusals p today = (g.requirements p today).countP fun c => g.Refuses p today c := by
  rcases hj : g.joiner with (_ | _) | raw
  · rw [refusals_of_not_passes hj h, requirements, hj, List.countP_filter]
    refine List.countP_congr fun c _ => ?_
    rw [Bool.and_eq_true, decide_eq_true_iff, refuses_iff hj, decide_eq_true_iff, iff_self_and]
    intro hrefused hsat
    rw [hsat] at hrefused
    cases hrefused
  · rw [refusals_of_not_passes hj h, requirements, hj]
    exact List.countP_congr fun c _ => by rw [decide_eq_true_iff, refuses_iff hj]
  · rw [refusals_of_unrecognized hj, requirements, hj]
    refine (List.countP_eq_length.mpr fun c _ => ?_).symm
    rw [decide_eq_true_iff, Refuses, hj]
    trivial

end Group

/-! ### What an assessment shows -/

namespace Ruleset

theorem passing_eq_length_filter (r : Ruleset) (p : Profile) (today : Date) :
    r.passing p today = (r.filter fun g => g.Passes p today).length := by
  rw [passing, ← List.countP_eq_length_filter]
  refine List.countP_congr fun g _ => ?_
  rw [Group.passed_iff, decide_eq_true_iff]

theorem listed_eq_flatMap_requirements (r : Ruleset) (p : Profile) (today : Date) :
    r.listed p today =
      (r.filter fun g => ¬ g.Passes p today).flatMap fun g => g.requirements p today := by
  rw [listed]
  induction r with
  | nil => rfl
  | cons g r ih =>
    rw [List.flatMap_cons, List.filter_cons, ih]
    by_cases hg : g.Passes p today
    · simp [hg, Group.listed_of_passes hg]
    · simp [hg, Group.listed_eq_requirements hg]

theorem sum_refusals_eq (r : Ruleset) (p : Profile) (today : Date) :
    (r.map fun g => g.refusals p today).sum =
      ((r.filter fun g => ¬ g.Passes p today).map fun g =>
        (g.requirements p today).countP fun c => g.Refuses p today c).sum := by
  induction r with
  | nil => rfl
  | cons g r ih =>
    rw [List.map_cons, List.sum_cons, List.filter_cons, ih]
    by_cases hg : g.Passes p today
    · simp [hg, Group.refusals_of_passes hg]
    · simp [hg, Group.refusals_eq_countP hg]

/-- An assessment says how many groups pass and whether all do, lists what the failing groups show
with each requirement where it comes first, and counts the refused rows among them as often as they
are shown. Where nothing is required everybody is eligible. -/
theorem assess_meets_specification (r : Ruleset) (p : Profile) (today : Date) :
    let failing := r.filter fun g => ¬ g.Passes p today
    let shown := failing.flatMap fun g => g.requirements p today
    let a := r.assess p today
    a.matchedGroups = (r.filter fun g => g.Passes p today).length ∧
      a.totalGroups = r.length ∧
      (a.verdict.isEligible = true ↔ ∀ g ∈ r, g.Passes p today) ∧
      a.verdict.missing = (shown.map fun c => c.describe).eraseDups ∧
      a.refusedConditions =
        (failing.map fun g => (g.requirements p today).countP fun c => g.Refuses p today c).sum ∧
      Ruleset.assess [] p today = ⟨⟨true, 100, []⟩, 0, 0, 0⟩ := by
  intro failing shown a
  have hmissing : a.verdict.missing = (shown.map fun c => c.describe).eraseDups := by
    rw [assess_missing, listed_eq_flatMap_requirements, foldl_addMissing_eq_eraseDups]
  have hrefused : a.refusedConditions =
      (failing.map fun g => (g.requirements p today).countP fun c => g.Refuses p today c).sum := by
    rw [assess_refusedConditions, sum_refusals_eq]
  refine ⟨?_, assess_totalGroups r p today, ?_, hmissing, hrefused, rfl⟩
  · rw [assess_matchedGroups, passing_eq_length_filter]
  · rw [assess_isEligible_iff, passing_eq_length_iff]

end Ruleset

end Entitlement
