import Entitlement.Proofs.Assessment.Basic

/-!
# Groups in place of others

Groups can be exchanged for others wherever they stand in a ruleset. The verdict only asks whether
all of them pass, which rows they list, and how many of those were refused. So a group that asks
for all of its rows can be taken apart, its parts asking for theirs; and a group of one row is the
same under either joiner.
-/

namespace Entitlement

variable {p : Profile} {today : Date}

/-! ### Groups that ask for all rows -/

namespace Group

/-- A group that asks for all rows lists those that are unmet, also when it passes: then there are
none. -/
@[simp] theorem listed_allOf (rows : List Condition) :
    (allOf rows).listed p today = rows.filter fun c => c.check p today ≠ .satisfied := by
  by_cases h : (allOf rows).Passes p today
  · have hnone : (rows.filter fun c => c.check p today ≠ .satisfied) = [] := by
      rw [List.filter_eq_nil_iff]
      intro c hc
      simp [h c hc]
    rw [listed_of_passes h, hnone]
  · exact listed_of_not_passes rfl h

@[simp] theorem refusals_allOf (rows : List Condition) :
    (allOf rows).refusals p today = rows.countP fun c => (c.check p today).isRefused := by
  by_cases h : (allOf rows).Passes p today
  · have hnone : (rows.countP fun c => (c.check p today).isRefused) = 0 := by
      rw [List.countP_eq_zero]
      intro c hc
      simp [h c hc, Outcome.isRefused]
    rw [refusals_of_passes h, hnone]
  · exact refusals_of_not_passes rfl h

/-- Of a single row, all hold just where any does. -/
theorem evaluate_anyOf_single (c : Condition) :
    (anyOf [c]).evaluate p today = (allOf [c]).evaluate p today := by
  have hpasses : ∀ unmet : List Failure,
      Joiner.any.passes [c] unmet = Joiner.all.passes [c] unmet := by
    rintro (_ | ⟨f, unmet⟩) <;> simp [Joiner.passes]
  simp only [evaluate, resultOf, anyOf, allOf, hpasses]
  rfl

end Group

/-! ### Exchanging groups -/

namespace Ruleset

/-- Holds of groups that can stand in each other's place as far as a profile's verdict goes. -/
structure Interchangeable (r s : Ruleset) (p : Profile) (today : Date) : Prop where
  passes : (∀ g ∈ r, g.Passes p today) ↔ ∀ g ∈ s, g.Passes p today
  listed : r.listed p today = s.listed p today
  refusals : (r.map fun g => g.refusals p today).sum = (s.map fun g => g.refusals p today).sum

namespace Interchangeable

variable {r s : Ruleset}

/-- What can be exchanged can be exchanged in the midst of other groups. -/
theorem inPlace (h : r.Interchangeable s p today) (before after : Ruleset) :
    Interchangeable (before ++ r ++ after) (before ++ s ++ after) p today where
  passes := by
    rw [List.forall_mem_append, List.forall_mem_append, List.forall_mem_append,
      List.forall_mem_append, h.passes]
  listed := by
    have hlisted := h.listed
    simp only [Ruleset.listed] at hlisted ⊢
    rw [List.flatMap_append, List.flatMap_append, List.flatMap_append, List.flatMap_append, hlisted]
  refusals := by
    rw [List.map_append, List.map_append, List.map_append, List.map_append, List.sum_append,
      List.sum_append, List.sum_append, List.sum_append, h.refusals]

theorem isEligible_eq (h : r.Interchangeable s p today) :
    (r.assess p today).verdict.isEligible = (s.assess p today).verdict.isEligible := by
  rw [Bool.eq_iff_iff, assess_isEligible_iff, assess_isEligible_iff, passing_eq_length_iff,
    passing_eq_length_iff]
  exact h.passes

theorem missing_eq (h : r.Interchangeable s p today) :
    (r.assess p today).verdict.missing = (s.assess p today).verdict.missing := by
  rw [assess_missing, assess_missing, h.listed]

theorem refusedConditions_eq (h : r.Interchangeable s p today) :
    (r.assess p today).refusedConditions = (s.assess p today).refusedConditions := by
  rw [assess_refusedConditions, assess_refusedConditions, h.refusals]

end Interchangeable

/-- A group that asks for all of its rows can be taken apart into any number of parts, of which some
may have no rows. -/
theorem allOf_flatten_interchangeable (parts : List (List Condition)) :
    Interchangeable [.allOf parts.flatten] (parts.map .allOf) p today where
  passes := by
    constructor
    · intro h g hg
      obtain ⟨rows, hrows, rfl⟩ := List.mem_map.mp hg
      exact fun c hc => h _ (List.mem_singleton_self _) c (List.mem_flatten_of_mem hrows hc)
    · intro h g hg
      obtain rfl := List.mem_singleton.mp hg
      intro c hc
      obtain ⟨rows, hrows, hc⟩ := List.mem_flatten.mp hc
      exact h _ (List.mem_map_of_mem hrows) c hc
  listed := by
    simp only [listed, List.flatMap_singleton, List.flatMap_map, Group.listed_allOf,
      List.filter_flatten]
    rfl
  refusals := by
    simp only [List.map_cons, List.map_nil, List.sum_singleton, List.map_map, Function.comp_def,
      Group.refusals_allOf, List.countP_flatten]

/-- A group that asks for all of its rows can be split in two where it stands: eligibility, what is
missing, in its order, and the number of refused rows stay as they are. A group of one row can ask
for all or for any of its rows, and nothing in the assessment changes. -/
theorem splitting_a_group_keeps_the_verdict (before after : Ruleset) (p : Profile) (today : Date) :
    (∀ rows more : List Condition,
      let whole := assess (before ++ [.allOf (rows ++ more)] ++ after) p today
      let split := assess (before ++ [.allOf rows, .allOf more] ++ after) p today
      split.verdict.isEligible = whole.verdict.isEligible ∧
        split.verdict.missing = whole.verdict.missing ∧
        split.refusedConditions = whole.refusedConditions) ∧
    ∀ c : Condition,
      assess (before ++ [.anyOf [c]] ++ after) p today =
        assess (before ++ [.allOf [c]] ++ after) p today := by
  constructor
  · intro rows more whole split
    have hparts : Interchangeable [.allOf (rows ++ more)] [.allOf rows, .allOf more] p today := by
      simpa using allOf_flatten_interchangeable [rows, more]
    have hplace := hparts.inPlace before after
    exact ⟨hplace.isEligible_eq.symm, hplace.missing_eq.symm, hplace.refusedConditions_eq.symm⟩
  · intro c
    refine assess_congr_of_results ?_
    simp only [List.map_append, List.map_cons, List.map_nil, Group.evaluate_anyOf_single]

end Ruleset

end Entitlement
