import Entitlement.Proofs.Assessment.Specification
import Entitlement.Proofs.Matching

/-!
# Denials that explain themselves

Whoever is not eligible should see what is missing, and a group that failed closed should be
counted. Both come from the rows that a failing group shows, so they hold except for a group that
fails without having a row: one whose joiner is not recognized. Such a hollow group denies and shows
nothing, and nobody notices unless something else in the ruleset was refused.
-/

namespace Entitlement

/-! ### Groups that fail closed -/

namespace Group

variable {g : Group} {p : Profile} {today : Date}

/-- Holds when the group fails because its joiner is not recognized or because a row that it lists
was refused. -/
def FailsClosed (g : Group) (p : Profile) (today : Date) : Prop :=
  (g.evaluate p today).passed = false ∧
    ((∃ raw, g.joiner = .unrecognized raw) ∨
      ∃ f ∈ (g.evaluate p today).failures, f.outcome.isRefused = true)

/-- Holds of a group without rows whose joiner is not recognized. -/
def Hollow (g : Group) : Prop :=
  g.rows = [] ∧ ∃ raw, g.joiner = .unrecognized raw

theorem passed_eq_false_iff : (g.evaluate p today).passed = false ↔ ¬ g.Passes p today := by
  rw [← Bool.not_eq_true, passed_iff]

theorem not_passes_of_unrecognized {raw : String} (hj : g.joiner = .unrecognized raw) :
    ¬ g.Passes p today := by
  rw [Passes, hj]
  exact id

theorem Hollow.failsClosed (h : g.Hollow) : g.FailsClosed p today := by
  obtain ⟨_, raw, hj⟩ := h
  exact ⟨passed_eq_false_iff.mpr (not_passes_of_unrecognized hj), Or.inl ⟨raw, hj⟩⟩

/-- Only a hollow group can fail and have nothing to show. -/
theorem hollow_of_requirements_eq_nil (hfails : ¬ g.Passes p today)
    (hnone : g.requirements p today = []) : g.Hollow := by
  rcases hj : g.joiner with (_ | _) | raw <;> rw [requirements, hj] at hnone
  · refine absurd ?_ hfails
    rw [Passes, hj]
    intro c hc
    by_contra hunmet
    exact List.filter_eq_nil_iff.mp hnone c hc (decide_eq_true hunmet)
  · refine absurd ?_ hfails
    rw [Passes, hj]
    exact Or.inl hnone
  · exact ⟨hnone, raw, hj⟩

/-- A group that fails closed counts a refusal unless it is hollow. -/
theorem refusals_pos_of_failsClosed (h : g.FailsClosed p today) (hfull : ¬ g.Hollow) :
    0 < g.refusals p today := by
  obtain ⟨_, ⟨raw, hj⟩ | ⟨f, hf, hrefused⟩⟩ := h
  · rw [refusals_of_unrecognized hj, List.length_pos_iff]
    exact fun hnil => hfull ⟨hnil, raw, hj⟩
  · rw [refusals, List.countP_pos_iff]
    exact ⟨f, hf, hrefused⟩

theorem listed_ne_nil_of_refusals_pos (h : 0 < g.refusals p today) : g.listed p today ≠ [] := by
  intro hnil
  rw [refusals, List.map_eq_nil_iff.mp hnil] at h
  exact Nat.lt_irrefl 0 h

theorem not_passes_of_listed_ne_nil (h : g.listed p today ≠ []) : ¬ g.Passes p today :=
  fun hpass => h (listed_of_passes hpass)

end Group

/-! ### Verdicts -/

namespace Ruleset

variable {r : Ruleset} {p : Profile} {today : Date}

/-- Holds when a denial comes with what is missing, and when whatever failed closed is counted, for
the profile among others and for a scheme with this ruleset among others. -/
structure Explained (r : Ruleset) (p : Profile) (today : Date) : Prop where
  missing : (r.assess p today).verdict.isEligible = false ↔
    (r.assess p today).verdict.missing ≠ []
  refused : ∀ g ∈ r, g.FailsClosed p today → 0 < (r.assess p today).refusedConditions
  profiles : ∀ g ∈ r, g.FailsClosed p today → ∀ profiles, p ∈ profiles →
    0 < (r.matchProfiles profiles today).degraded
  schemes : ∀ g ∈ r, g.FailsClosed p today → ∀ schemes threshold, ∀ t ∈ schemes,
    t.conditions = r → 0 < (p.matchSchemes schemes today threshold).degraded

theorem assess_not_eligible_iff :
    (r.assess p today).verdict.isEligible = false ↔ ∃ g ∈ r, ¬ g.Passes p today := by
  rw [← Bool.not_eq_true, assess_isEligible_iff, passing_eq_length_iff]
  push Not
  rfl

theorem missing_ne_nil_iff :
    (r.assess p today).verdict.missing ≠ [] ↔ ∃ g ∈ r, g.listed p today ≠ [] := by
  constructor
  · intro h
    obtain ⟨s, hs⟩ := List.exists_mem_of_ne_nil _ h
    obtain ⟨g, hg, c, hc, _⟩ := mem_assess_missing.mp hs
    exact ⟨g, hg, List.ne_nil_of_mem hc⟩
  · rintro ⟨g, hg, h⟩
    obtain ⟨c, hc⟩ := List.exists_mem_of_ne_nil _ h
    exact List.ne_nil_of_mem (mem_assess_missing.mpr ⟨g, hg, c, hc, rfl⟩)

theorem refusedConditions_pos_iff :
    0 < (r.assess p today).refusedConditions ↔ ∃ g ∈ r, 0 < g.refusals p today := by
  rw [assess_refusedConditions, List.sum_pos_iff_exists_pos_nat]
  simp

theorem profiles_degraded_pos {profiles : List Profile} (hp : p ∈ profiles)
    (h : 0 < (r.assess p today).refusedConditions) :
    0 < (r.matchProfiles profiles today).degraded := by
  rw [matchProfiles, List.length_pos_iff_exists_mem]
  exact ⟨p, List.mem_filter.mpr ⟨hp, decide_eq_true h⟩⟩

theorem schemes_degraded_pos {schemes : List Scheme} {t : Scheme} (threshold : Nat)
    (ht : t ∈ schemes) (h : 0 < (t.conditions.assess p today).refusedConditions) :
    0 < (p.matchSchemes schemes today threshold).degraded := by
  rw [Profile.matchSchemes_degraded, List.countP_pos_iff]
  exact ⟨t, ht, decide_eq_true h⟩

/-- Verdicts explain themselves exactly where no group is hollow or something was refused. -/
theorem explained_iff (r : Ruleset) (p : Profile) (today : Date) :
    r.Explained p today ↔
      (∀ g ∈ r, ¬ g.Hollow) ∨ 0 < (r.assess p today).refusedConditions := by
  constructor
  · intro h
    by_cases hfull : ∀ g ∈ r, ¬ g.Hollow
    · exact Or.inl hfull
    · push Not at hfull
      obtain ⟨g, hg, hhollow⟩ := hfull
      exact Or.inr (h.refused g hg hhollow.failsClosed)
  · intro h
    have hrefused : ∀ g ∈ r, g.FailsClosed p today → 0 < (r.assess p today).refusedConditions := by
      intro g hg hclosed
      refine h.elim (fun hfull => ?_) id
      exact refusedConditions_pos_iff.mpr
        ⟨g, hg, Group.refusals_pos_of_failsClosed hclosed (hfull g hg)⟩
    refine ⟨?_, hrefused, ?_, ?_⟩
    · rw [assess_not_eligible_iff, missing_ne_nil_iff]
      constructor
      · rintro ⟨g, hg, hfails⟩
        rcases h with hfull | hpos
        · refine ⟨g, hg, fun hnil => hfull g hg ?_⟩
          rw [Group.listed_eq_requirements hfails] at hnil
          exact Group.hollow_of_requirements_eq_nil hfails hnil
        -- another group may be the one that shows something
        · obtain ⟨shown, hshown, hcount⟩ := refusedConditions_pos_iff.mp hpos
          exact ⟨shown, hshown, Group.listed_ne_nil_of_refusals_pos hcount⟩
      · rintro ⟨g, hg, hlisted⟩
        exact ⟨g, hg, Group.not_passes_of_listed_ne_nil hlisted⟩
    · exact fun g hg hclosed profiles hp => profiles_degraded_pos hp (hrefused g hg hclosed)
    · intro g hg hclosed schemes threshold t ht hr
      exact schemes_degraded_pos threshold ht (hr ▸ hrefused g hg hclosed)

/-- A ruleset of one hollow group denies everybody, with nothing missing and nothing counted. -/
theorem hollow_group_explains_nothing :
    let g : Group := ⟨.unrecognized "XOR", []⟩
    let p : Profile := { id := "p-1" }
    let today : Date := ⟨2024, 6, 15, by decide, by decide, by decide⟩
    g.FailsClosed p today ∧
      Ruleset.assess [g] p today = ⟨⟨false, 0, []⟩, 0, 1, 0⟩ ∧
      (Ruleset.matchProfiles [g] [p] today).degraded = 0 ∧ ¬ Ruleset.Explained [g] p today := by
  intro g p today
  have hclosed : g.FailsClosed p today := ⟨by decide, Or.inl ⟨"XOR", rfl⟩⟩
  have hassess : Ruleset.assess [g] p today = ⟨⟨false, 0, []⟩, 0, 1, 0⟩ := by decide +kernel
  refine ⟨hclosed, hassess, by decide +kernel, fun h => ?_⟩
  have hpos := h.refused g (List.mem_singleton_self g) hclosed
  rw [hassess] at hpos
  exact Nat.lt_irrefl 0 hpos

end Ruleset

end Entitlement
