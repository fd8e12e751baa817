import Entitlement.Proofs.Matching

/-!
# A ruleset and a population

Matching finds exactly the eligible profiles, each as often as it is listed, and counts those that
met something that could not be compared. The ids come out sorted, and there is only one way to sort
them, so it does not matter in which order the profiles were listed.
-/

namespace Entitlement

/-! ### Sorted ids -/

/-- The ids in the order of their bytes. An id that occurs again stays. -/
def sortedIds (ids : List String) : List String :=
  ids.mergeSort fun a b => a ≤ b

theorem sortedIds_perm (ids : List String) : (sortedIds ids).Perm ids :=
  List.mergeSort_perm ids _

theorem sortedIds_ascending (ids : List String) :
    (sortedIds ids).Pairwise fun a b => a ≤ b := by
  have htrans (a b c : String) (hab : decide (a ≤ b) = true) (hbc : decide (b ≤ c) = true) :
      decide (a ≤ c) = true :=
    decide_eq_true (String.le_trans (of_decide_eq_true hab) (of_decide_eq_true hbc))
  have htotal (a b : String) : (decide (a ≤ b) || decide (b ≤ a)) = true := by
    rcases String.le_total a b with h | h <;> simp [h]
  exact (List.pairwise_mergeSort htrans htotal ids).imp of_decide_eq_true

/-- Of lists with the same ids only one is sorted. -/
theorem sortedIds_eq_of_perm {ids shuffled : List String} (h : shuffled.Perm ids) :
    sortedIds shuffled = sortedIds ids := by
  refine List.Perm.eq_of_pairwise (fun a b _ _ => String.le_antisymm)
    (sortedIds_ascending shuffled) (sortedIds_ascending ids) ?_
  exact (sortedIds_perm shuffled).trans (h.trans (sortedIds_perm ids).symm)

/-! ### The population -/

namespace Ruleset

variable (r : Ruleset) (today : Date)

/-- The profiles that are eligible, in the order listed. -/
def eligibleAmong (profiles : List Profile) : List Profile :=
  profiles.filter fun p => (r.assess p today).verdict.isEligible

theorem matchProfiles_eq (profiles : List Profile) :
    r.matchProfiles profiles today =
      { matched := sortedIds ((r.eligibleAmong today profiles).map (·.id))
        count := (r.eligibleAmong today profiles).length
        degraded := profiles.countP fun p => (r.assess p today).isDegraded } := by
  have hcount : (sortedIds ((r.eligibleAmong today profiles).map (·.id))).length =
      (r.eligibleAmong today profiles).length := by
    rw [(sortedIds_perm _).length_eq, List.length_map]
  rw [← hcount, List.countP_eq_length_filter]
  rfl

theorem matchProfiles_of_perm {profiles shuffled : List Profile} (h : shuffled.Perm profiles) :
    r.matchProfiles shuffled today = r.matchProfiles profiles today := by
  have heligible : (r.eligibleAmong today shuffled).Perm (r.eligibleAmong today profiles) :=
    h.filter _
  rw [matchProfiles_eq, matchProfiles_eq, sortedIds_eq_of_perm (heligible.map _),
    heligible.length_eq, h.countP_eq]

end Ruleset

/-- Matching lists the ids of the eligible profiles, each as often as there is such a profile, in the
order of their bytes. It counts them, and the profiles for which something could not be compared,
and answers alike in whatever order the profiles are listed. -/
theorem matching_finds_exactly_the_eligible (r : Ruleset) (today : Date)
    (profiles : List Profile) :
    let found := r.matchProfiles profiles today
    (found.matched.Pairwise fun a b => Text.bytes a ≤ Text.bytes b) ∧
    found.matched.Perm
      ((profiles.filter fun p => (r.assess p today).verdict.isEligible).map (·.id)) ∧
    found.count = found.matched.length ∧
    found.degraded = (profiles.countP fun p => 0 < (r.assess p today).refusedConditions) ∧
    ∀ shuffled : List Profile, shuffled.Perm profiles → r.matchProfiles shuffled today = found := by
  intro found
  have hfound := r.matchProfiles_eq today profiles
  refine ⟨?_, ?_, rfl, ?_, fun shuffled h => r.matchProfiles_of_perm today h⟩
  · exact (congrArg PopulationMatch.matched hfound) ▸
      (sortedIds_ascending _).imp Text.bytes_le_of_le
  · exact (congrArg PopulationMatch.matched hfound) ▸ sortedIds_perm _
  · exact congrArg PopulationMatch.degraded hfound

/-- Two citizens with one id, one who is not eligible, and one of whom nothing is known. -/
theorem population_listed_backwards :
    let rules : Ruleset := [.allOf [⟨.known .state, .known .equals, .text "Kerala"⟩]]
    let today : Date := ⟨2024, 6, 15, by decide, by decide, by decide⟩
    let profiles : List Profile :=
      [{ id := "p-1", state := some "kerala" }, { id := "p-0", state := some "Goa" },
        { id := "p-2", state := some "Kerala" }, { id := "p-3" },
        { id := "p-2", state := some "KERALA" }]
    profiles.reverse.Perm profiles ∧
      rules.matchProfiles profiles today = ⟨["p-1", "p-2", "p-2"], 3, 1⟩ ∧
      rules.matchProfiles profiles.reverse today = ⟨["p-1", "p-2", "p-2"], 3, 1⟩ := by
  intro rules today profiles
  have heligible : (rules.eligibleAmong today profiles).map (·.id) = ["p-1", "p-2", "p-2"] := by
    decide +kernel
  have hsorted : sortedIds ["p-1", "p-2", "p-2"] = ["p-1", "p-2", "p-2"] :=
    List.mergeSort_of_pairwise (by decide)
  have hdegraded : (profiles.countP fun p => (rules.assess p today).isDegraded) = 1 := by
    decide +kernel
  have hfound : rules.matchProfiles profiles today = ⟨["p-1", "p-2", "p-2"], 3, 1⟩ := by
    rw [Ruleset.matchProfiles_eq, ← List.length_map (·.id), heligible, hsorted, hdegraded]
    rfl
  have hperm : profiles.reverse.Perm profiles := List.reverse_perm profiles
  obtain ⟨_, _, _, _, hany⟩ := matching_finds_exactly_the_eligible rules today profiles
  exact ⟨hperm, hfound, (hany _ hperm).trans hfound⟩

end Entitlement
