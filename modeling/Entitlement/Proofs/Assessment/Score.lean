import Entitlement.Proofs.Assessment.Specification

/-!
# The score

The score is the share of groups that pass, in percent and rounded to the nearest integer. It never
decreases when more groups pass, and a ruleset that is stated several times over gives the same
verdict as once.
-/

namespace Entitlement

namespace Ruleset

variable {r s : Ruleset} {p q : Profile} {today later : Date}

/-! ### Rulesets stated several times over -/

/-- The ruleset stated `k` times over. -/
def repeated (r : Ruleset) (k : Nat) : Ruleset :=
  (List.replicate k r).flatten

theorem repeated_succ (r : Ruleset) (k : Nat) : r.repeated (k + 1) = r ++ r.repeated k := by
  rw [repeated, List.replicate_succ, List.flatten_cons, ← repeated]

theorem length_repeated (r : Ruleset) (k : Nat) : (r.repeated k).length = k * r.length := by
  induction k with
  | zero => rw [Nat.zero_mul]; rfl
  | succ k ih => rw [repeated_succ, List.length_append, ih, Nat.succ_mul, Nat.add_comm]

theorem passing_repeated (r : Ruleset) (p : Profile) (today : Date) (k : Nat) :
    (r.repeated k).passing p today = k * r.passing p today := by
  induction k with
  | zero => rw [Nat.zero_mul]; rfl
  | succ k ih =>
    rw [repeated_succ, passing, List.countP_append, ← passing, ← passing, ih, Nat.succ_mul,
      Nat.add_comm]

theorem listed_repeated_subset (r : Ruleset) (p : Profile) (today : Date) (k : Nat) :
    (r.repeated k).listed p today ⊆ r.listed p today := by
  induction k with
  | zero => exact List.nil_subset _
  | succ k ih =>
    rw [repeated_succ, listed, List.flatMap_append]
    exact List.append_subset.mpr ⟨List.Subset.refl _, ih⟩

/-- What was listed before is not listed again. -/
theorem eraseDups_append_of_subset {xs ys : List String} (h : ys ⊆ xs) :
    (xs ++ ys).eraseDups = xs.eraseDups := by
  have hnone : ys.removeAll xs = [] := by
    rw [List.removeAll, List.filter_eq_nil_iff]
    intro y hy
    simp [h hy]
  rw [List.eraseDups_append, hnone, List.eraseDups_nil, List.append_nil]

theorem assess_repeated_isEligible {k : Nat} (hk : 0 < k) (r : Ruleset) (p : Profile)
    (today : Date) :
    ((r.repeated k).assess p today).verdict.isEligible =
      (r.assess p today).verdict.isEligible := by
  rw [Bool.eq_iff_iff, assess_isEligible_iff, assess_isEligible_iff, passing_repeated,
    length_repeated]
  exact Nat.mul_right_inj (Nat.ne_of_gt hk)

theorem assess_repeated_score {k : Nat} (hk : 0 < k) (hr : r ≠ []) (p : Profile) (today : Date) :
    ((r.repeated k).assess p today).verdict.score = (r.assess p today).verdict.score := by
  have hrepeated : r.repeated k ≠ [] := by
    rw [← List.length_pos_iff, length_repeated]
    exact Nat.mul_pos hk (List.length_pos_iff.mpr hr)
  rw [assess_score hrepeated, assess_score hr, passing_repeated, length_repeated,
    roundedPercentage_mul hk]

theorem assess_repeated_missing {k : Nat} (hk : 0 < k) (r : Ruleset) (p : Profile)
    (today : Date) :
    ((r.repeated k).assess p today).verdict.missing = (r.assess p today).verdict.missing := by
  obtain ⟨k, rfl⟩ := Nat.exists_eq_succ_of_ne_zero (Nat.ne_of_gt hk)
  rw [assess_missing, assess_missing, foldl_addMissing_eq_eraseDups, foldl_addMissing_eq_eraseDups,
    repeated_succ, listed, List.flatMap_append, List.map_append]
  exact eraseDups_append_of_subset (List.map_subset _ (listed_repeated_subset r p today k))

/-- The score of a ruleset is the nearest integer to the percentage of its groups that pass, the
upper one of two. Working it out leaves no machine word and needs no bound. More passing groups
give no lower score; the score is 100 when at most half a percent of the groups fail and 0 when less
than half a percent pass; and to state the ruleset several times over changes nothing. -/
theorem score_is_rounded_half_up {r : Ruleset} (hr : r ≠ [])
    (hfits : r.length ≤ (2 ^ 64 - 1) / 201) (p : Profile) (today : Date) :
    let n := r.length
    let m := r.passing p today
    let verdict := (r.assess p today).verdict
    percentageInWords? m n = some verdict.score ∧
      (∀ s : Int, 2 * n * s ≤ 200 * m + n ∧ 200 * m + n < 2 * n * (s + 1) ↔ s = verdict.score) ∧
      verdict.score ≤ 100 ∧
      (∀ (other : Ruleset) (q : Profile) (later : Date), other.length = n →
        m ≤ other.passing q later → verdict.score ≤ (other.assess q later).verdict.score) ∧
      (verdict.score = 100 ↔ 200 * (n - m) ≤ n) ∧
      (verdict.score = 0 ↔ 200 * m < n) ∧
      ∀ k, 1 ≤ k →
        let again := ((r.repeated k).assess p today).verdict
        again.isEligible = verdict.isEligible ∧ again.score = verdict.score ∧
          again.missing = verdict.missing := by
  intro n m verdict
  have hpos : 0 < n := List.length_pos_iff.mpr hr
  have hle : m ≤ n := passing_le r p today
  have hscore : verdict.score = roundedPercentage m n := assess_score hr
  rw [hscore]
  refine ⟨percentageInWords?_eq hpos hle hfits, roundedPercentage_unique hpos hle,
    roundedPercentage_le m n, ?_, roundedPercentage_eq_hundred_iff hpos hle,
    roundedPercentage_eq_zero_iff hpos, ?_⟩
  · intro other q later hlength hmore
    have hother : other ≠ [] := List.length_pos_iff.mp (hlength ▸ hpos)
    rw [assess_score hother, hlength]
    exact roundedPercentage_mono hmore n
  · intro k hk again
    refine ⟨assess_repeated_isEligible hk r p today, ?_, assess_repeated_missing hk r p today⟩
    rw [← hscore]
    exact assess_repeated_score hk hr p today

/-- One group of eight is 12.5 percent. -/
theorem one_group_of_eight_scores_thirteen :
    let rule (state : String) : Group :=
      .allOf [⟨.known .state, .known .equals, .text state⟩]
    let p : Profile := { id := "p-1", state := some "Kerala" }
    let r : Ruleset := rule "Kerala" :: List.replicate 7 (rule "Goa")
    r ≠ [] ∧ r.length ≤ (2 ^ 64 - 1) / 201 ∧ (r.assess p .last).verdict.score = 13 ∧
      percentageInWords? 1 8 = some 13 ∧ ((r.repeated 3).assess p .last).verdict.score = 13 := by
  intro rule p r
  have hr : r ≠ [] := List.cons_ne_nil _ _
  have hlength : r.length = 8 := rfl
  have hfits : r.length ≤ (2 ^ 64 - 1) / 201 := by rw [hlength]; decide
  have hpassing : r.passing p .last = 1 := by decide +kernel
  obtain ⟨hwords, hunique, -, -, -, -, hrepeated⟩ := score_is_rounded_half_up hr hfits p .last
  rw [hpassing, hlength] at hwords hunique
  have hscore : (r.assess p .last).verdict.score = 13 := by
    have h := (hunique 13).mp (by decide)
    omega
  rw [hscore] at hwords
  exact ⟨hr, hfits, hscore, hwords, (hrepeated 3 (by decide)).2.1.trans hscore⟩

end Ruleset

end Entitlement
