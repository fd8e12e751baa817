import Entitlement.Proofs.Assessment.Basic
import Mathlib.Data.List.Forall2
import Mathlib.Data.List.Perm.Basic

/-!
# The order of the rules

Groups may stand in any order, and rows in any order within their groups. Each group passes or fails
as before and has as many refused rows, so that all counts of an assessment stay, and what is
missing is the same in another order.
-/

namespace Entitlement

variable {p : Profile} {today : Date}

/-! ### Groups -/

/-- Holds of groups that differ at most in the order of their rows. -/
def Group.Reordered (g h : Group) : Prop :=
  g.joiner = h.joiner ∧ g.rows.Perm h.rows

namespace Group.Reordered

variable {g h : Group}

theorem passes_iff (hgh : g.Reordered h) : g.Passes p today ↔ h.Passes p today := by
  obtain ⟨hjoiner, hrows⟩ := hgh
  rw [Passes, Passes, ← hjoiner]
  rcases g.joiner with (_ | _) | raw
  · exact forall_congr' fun c => imp_congr_left hrows.mem_iff
  · have hempty : g.rows = [] ↔ h.rows = [] := by
      rw [← List.length_eq_zero_iff, hrows.length_eq, List.length_eq_zero_iff]
    exact or_congr hempty (exists_congr fun c => and_congr_left' hrows.mem_iff)
  · exact Iff.rfl

theorem passed_eq (hgh : g.Reordered h) :
    (g.evaluate p today).passed = (h.evaluate p today).passed := by
  rw [Bool.eq_iff_iff, passed_iff, passed_iff]
  exact hgh.passes_iff

/-- What a group shows is shown for the same rows by the same checks, whatever their order. -/
theorem failures_perm (hgh : g.Reordered h) :
    (g.evaluate p today).failures.Perm (h.evaluate p today).failures := by
  by_cases hg : g.Passes p today
  · rw [failures_of_passes hg, failures_of_passes (hgh.passes_iff.mp hg)]
  · have hh : ¬ h.Passes p today := fun hpass => hg (hgh.passes_iff.mpr hpass)
    obtain ⟨hjoiner, hrows⟩ := hgh
    cases hj : g.joiner with
    | known joiner =>
      rw [failures_of_not_passes hj hg, failures_of_not_passes (hjoiner ▸ hj) hh]
      exact hrows.filterMap _
    | unrecognized raw =>
      rw [failures_of_unrecognized hj, failures_of_unrecognized (hjoiner ▸ hj)]
      exact hrows.map _

theorem listed_perm (hgh : g.Reordered h) : (g.listed p today).Perm (h.listed p today) :=
  hgh.failures_perm.map _

theorem refusals_eq (hgh : g.Reordered h) : g.refusals p today = h.refusals p today :=
  hgh.failures_perm.countP_eq _

end Group.Reordered

/-! ### Rulesets -/

/-- Holds of rulesets that differ at most in the order of the groups and, within each group, of the
rows. -/
def Ruleset.Reordered (r s : Ruleset) : Prop :=
  ∃ t : Ruleset, List.Forall₂ Group.Reordered r t ∧ t.Perm s

namespace Ruleset.Reordered

variable {r s : Ruleset}

/-- What can be said of groups whatever the order of their rows is said of the same ones. -/
theorem map_perm {α : Type} {f : Group → α} (hf : ∀ g h : Group, g.Reordered h → f g = f h)
    (hrs : r.Reordered s) : (r.map f).Perm (s.map f) := by
  obtain ⟨t, hrows, hgroups⟩ := hrs
  have hsame : r.map f = t.map f := by
    clear hgroups
    induction hrows with
    | nil => rfl
    | cons hgh _ ih => rw [List.map_cons, List.map_cons, hf _ _ hgh, ih]
  rw [hsame]
  exact hgroups.map f

theorem length_eq (hrs : r.Reordered s) : r.length = s.length := by
  obtain ⟨t, hrows, hgroups⟩ := hrs
  exact hrows.length_eq.trans hgroups.length_eq

theorem passing_eq (hrs : r.Reordered s) : r.passing p today = s.passing p today := by
  have hperm := map_perm (f := fun g => (g.evaluate p today).passed)
    (fun _ _ hgh => hgh.passed_eq) hrs
  have hcount := hperm.countP_eq id
  rwa [List.countP_map, List.countP_map] at hcount

theorem refusals_eq (hrs : r.Reordered s) :
    (r.map fun g => g.refusals p today).sum = (s.map fun g => g.refusals p today).sum :=
  (map_perm (fun _ _ hgh => hgh.refusals_eq) hrs).sum_nat

theorem listed_perm (hrs : r.Reordered s) : (r.listed p today).Perm (s.listed p today) := by
  obtain ⟨t, hrows, hgroups⟩ := hrs
  have hsame : (r.listed p today).Perm (t.listed p today) := by
    clear hgroups
    induction hrows with
    | nil => exact List.Perm.refl _
    | cons hgh _ ih =>
      rw [listed, listed, List.flatMap_cons, List.flatMap_cons]
      exact hgh.listed_perm.append ih
  exact hsame.trans (hgroups.flatMap_right _)

theorem isEligible_eq (hrs : r.Reordered s) :
    (r.assess p today).verdict.isEligible = (s.assess p today).verdict.isEligible := by
  rw [Bool.eq_iff_iff, assess_isEligible_iff, assess_isEligible_iff, hrs.passing_eq, hrs.length_eq]

theorem score_eq (hrs : r.Reordered s) :
    (r.assess p today).verdict.score = (s.assess p today).verdict.score := by
  by_cases hr : r = []
  · have hs : s = [] := by
      rw [← List.length_eq_zero_iff, ← hrs.length_eq, hr, List.length_nil]
    rw [hr, hs]
  · have hs : s ≠ [] := by
      rw [← List.length_pos_iff, ← hrs.length_eq]
      exact List.length_pos_iff.mpr hr
    rw [assess_score hr, assess_score hs, hrs.passing_eq, hrs.length_eq]

/-- Either list holds each requirement once, so that the same requirements make the same list but
for the order. -/
theorem missing_perm (hrs : r.Reordered s) :
    (r.assess p today).verdict.missing.Perm (s.assess p today).verdict.missing := by
  rw [assess_missing, assess_missing]
  refine (List.perm_ext_iff_of_nodup (nodup_foldl_addMissing List.nodup_nil)
    (nodup_foldl_addMissing List.nodup_nil)).mpr fun requirement => ?_
  rw [mem_foldl_addMissing, mem_foldl_addMissing, (hrs.listed_perm.map Condition.describe).mem_iff]

end Ruleset.Reordered

/-! ### Assessments -/

/-- Holds of assessments that differ at most in the order of what is missing. -/
structure Assessment.SameButForOrder (a b : Assessment) : Prop where
  isEligible : a.verdict.isEligible = b.verdict.isEligible
  score : a.verdict.score = b.verdict.score
  matchedGroups : a.matchedGroups = b.matchedGroups
  totalGroups : a.totalGroups = b.totalGroups
  refusedConditions : a.refusedConditions = b.refusedConditions
  band : ∀ threshold, a.verdict.band threshold = b.verdict.band threshold
  missing : a.verdict.missing.Perm b.verdict.missing

/-- Groups in another order, with their rows in other orders, are assessed as before; only what is
missing may be listed in another order. -/
theorem order_of_rules_does_not_matter {r s : Ruleset} (h : r.Reordered s) (p : Profile)
    (today : Date) : (r.assess p today).SameButForOrder (s.assess p today) where
  isEligible := h.isEligible_eq
  score := h.score_eq
  matchedGroups := by
    rw [Ruleset.assess_matchedGroups, Ruleset.assess_matchedGroups, h.passing_eq]
  totalGroups := by
    rw [Ruleset.assess_totalGroups, Ruleset.assess_totalGroups, h.length_eq]
  refusedConditions := by
    rw [Ruleset.assess_refusedConditions, Ruleset.assess_refusedConditions, h.refusals_eq]
  band := fun threshold => by rw [Verdict.band, Verdict.band, h.isEligible_eq, h.score_eq]
  missing := h.missing_perm

/-- Three groups turned round, and the rows of two of them as well. One requirement stands in two
groups. -/
theorem rules_turned_round_are_assessed_alike :
    let p : Profile := { id := "p-1", state := some "Kerala" }
    let goa : Condition := ⟨.known .state, .known .equals, .text "Goa"⟩
    let kerala : Condition := ⟨.known .state, .known .equals, .text "Kerala"⟩
    let income : Condition := ⟨.known .annualIncome, .known .lessThan, .text "800000"⟩
    let r : Ruleset := [.allOf [goa, income], .anyOf [goa, kerala], ⟨.unrecognized "XOR", [goa]⟩]
    let s : Ruleset := [⟨.unrecognized "XOR", [goa]⟩, .anyOf [kerala, goa], .allOf [income, goa]]
    r.Reordered s ∧ (r.assess p .last).SameButForOrder (s.assess p .last) ∧
      (r.assess p .last).verdict.missing = ["State Equals Goa", "Annual Income Less Than 800000"] ∧
      (s.assess p .last).refusedConditions = 2 := by
  intro p goa kerala income r s
  let t : Ruleset := [.allOf [income, goa], .anyOf [kerala, goa], ⟨.unrecognized "XOR", [goa]⟩]
  have hrows : List.Forall₂ Group.Reordered r t :=
    .cons ⟨rfl, List.Perm.swap _ _ _⟩
      (.cons ⟨rfl, List.Perm.swap _ _ _⟩ (.cons ⟨rfl, List.Perm.refl _⟩ .nil))
  have hgroups : t.Perm s := List.reverse_perm s
  have h : r.Reordered s := ⟨t, hrows, hgroups⟩
  exact ⟨h, order_of_rules_does_not_matter h p .last, by decide +kernel, by decide +kernel⟩

end Entitlement
