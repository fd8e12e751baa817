import Entitlement.Matching
import Entitlement.Proofs.Store

/-!
# What matching finds

Schemes are taken up one after the other, each into one list and under one counter. What one step
does to them gives what a whole catalog comes to: the lists are the catalog by bands, and the
counters say how long the lists are.
-/

namespace Entitlement

/-! ### Lists and counters by band -/

namespace SchemeResults

/-- The entries in the given band. -/
def inBand (r : SchemeResults) : Band → List SchemeEntry
  | .eligible => r.eligible
  | .partly => r.partly
  | .notEligible => r.notEligible

/-- How many schemes were counted in the given band. -/
def count (r : SchemeResults) : Band → Nat
  | .eligible => r.eligibleCount
  | .partly => r.partlyCount
  | .notEligible => r.notEligibleCount

/-- All entries, band by band. -/
def entries (r : SchemeResults) : List SchemeEntry :=
  r.inBand .eligible ++ r.inBand .partly ++ r.inBand .notEligible

variable (r : SchemeResults)

theorem push_inBand (e : SchemeEntry) (band b : Band) :
    (r.push e band).inBand b = r.inBand b ++ if band = b then [e] else [] := by
  cases band <;> cases b <;> simp [push, inBand]

theorem push_degraded (e : SchemeEntry) (band : Band) :
    (r.push e band).degraded = r.degraded := by
  cases band <;> rfl

variable (x : Placement)

theorem add_inBand (b : Band) :
    (r.add x).inBand b = r.inBand b ++ if x.band = b then [x.entry] else [] := by
  rw [add, push_inBand]
  cases x.isDegraded <;> cases b <;> rfl

theorem add_degraded : (r.add x).degraded = r.degraded + if x.isDegraded then 1 else 0 := by
  rw [add, push_degraded]
  cases x.isDegraded <;> rfl

theorem foldl_add_inBand (b : Band) : ∀ (xs : List Placement) (r : SchemeResults),
    (xs.foldl add r).inBand b = r.inBand b ++ (xs.filter (·.band = b)).map (·.entry)
  | [], r => by simp
  | x :: xs, r => by
    rw [List.foldl_cons, foldl_add_inBand b xs, add_inBand, List.append_assoc, List.filter_cons]
    by_cases h : x.band = b <;> simp [h]

/-- A counter that goes up by one for each scheme of a kind ends up with how many there are. -/
theorem foldl_add_counter (counter : SchemeResults → Nat) (q : Placement → Bool)
    (hstep : ∀ r x, counter (r.add x) = counter r + if q x then 1 else 0) :
    ∀ (xs : List Placement) (r : SchemeResults),
      counter (xs.foldl add r) = counter r + xs.countP q
  | [], r => by simp
  | x :: xs, r => by
    rw [List.foldl_cons, foldl_add_counter counter q hstep xs, hstep, List.countP_cons]
    omega

theorem foldl_add_degraded (xs : List Placement) :
    (xs.foldl add r).degraded = r.degraded + xs.countP (·.isDegraded) :=
  foldl_add_counter (·.degraded) (·.isDegraded) add_degraded xs r

end SchemeResults

/-! ### The results of a catalog -/

namespace Profile

variable (p : Profile) (schemes : List Scheme) (today : Date) (threshold : Nat)

theorem matchSchemes_inBand (band : Band) :
    (p.matchSchemes schemes today threshold).inBand band =
      (schemes.filter fun t => (t.placement p today threshold).band = band).map
        fun t => (t.placement p today threshold).entry := by
  rw [matchSchemes, SchemeResults.foldl_add_inBand, List.filter_map, List.map_map]
  cases band <;> rfl

theorem matchSchemes_degraded :
    (p.matchSchemes schemes today threshold).degraded =
      schemes.countP fun t => 0 < (t.conditions.assess p today).refusedConditions := by
  rw [matchSchemes, SchemeResults.foldl_add_degraded, List.countP_map]
  exact Nat.zero_add _

end Profile

variable {p : Profile} {schemes : List Scheme} {profiles : List Profile} {today : Date}

theorem mem_matchSchemes_eligible {schemeId : String} {threshold : Nat} :
    schemeId ∈ (p.matchSchemes schemes today threshold).eligible.map (·.id) ↔
      ∃ t ∈ schemes, t.id = schemeId ∧
        (t.conditions.assess p today).verdict.band threshold = .eligible := by
  have heligible := p.matchSchemes_inBand schemes today threshold .eligible
  rw [SchemeResults.inBand] at heligible
  rw [heligible, List.map_map, List.mem_map]
  simp only [List.mem_filter, decide_eq_true_iff, and_assoc]
  exact exists_congr fun t => and_congr_right fun _ => and_comm

/-! ### The profiles for a ruleset -/

/-- Profiles of a store ascend by id already, and then sorting the matched ids changes nothing. -/
theorem Ruleset.matchProfiles_matched (r : Ruleset) (h : ProfileStore.Ascending profiles) :
    (r.matchProfiles profiles today).matched =
      (profiles.filter fun p => (r.assess p today).verdict.isEligible).map (·.id) := by
  rw [matchProfiles]
  refine List.mergeSort_of_pairwise ?_
  rw [List.pairwise_map]
  refine List.Pairwise.imp ?_ (List.Pairwise.filter _ h)
  intro p q hlt
  exact decide_eq_true (String.not_lt.mp (List.lt_asymm hlt))

end Entitlement
