import Entitlement.Assessment
import Entitlement.Scheme

/-!
# Matching

A ruleset matched with many profiles, and a profile matched with many schemes.
-/

namespace Entitlement

/-! ### Profiles for a ruleset -/

/-- The profiles that are eligible under a ruleset. -/
structure PopulationMatch where
  /-- Their ids, ascending. -/
  matched : List String
  count : Nat
  /-- How many profiles met something that could not be compared. -/
  degraded : Nat
  deriving DecidableEq

/-- Matches a ruleset with profiles. -/
def Ruleset.matchProfiles (r : Ruleset) (profiles : List Profile) (today : Date) :
    PopulationMatch :=
  let eligible := profiles.filter fun p => (r.assess p today).verdict.isEligible
  let matched := (eligible.map (·.id)).mergeSort fun a b => a ≤ b
  { matched
    count := matched.length
    degraded := (profiles.filter fun p => (r.assess p today).isDegraded).length }

/-! ### Schemes for a profile -/

/-- How a profile stands with one scheme. -/
structure SchemeEntry where
  id : String
  name : String
  description : Option String
  score : Nat
  reason : String
  missing : List String
  deriving DecidableEq

/-- A scheme as assessed for a profile, before it is taken up into the results. -/
structure Placement where
  band : Band
  entry : SchemeEntry
  /-- Whether the scheme holds something that could not be compared. -/
  isDegraded : Bool

/-- Places a scheme for a profile. -/
def Scheme.placement (s : Scheme) (p : Profile) (today : Date) (threshold : Nat) : Placement :=
  let assessment := s.conditions.assess p today
  let verdict := assessment.verdict
  let band := verdict.band threshold
  { band
    entry := ⟨s.id, s.name, s.description, verdict.score, band.reason, verdict.missing⟩
    isDegraded := assessment.isDegraded }

/-- Schemes by band, each in the order of the catalog, and how many there are. The numbers are kept
beside the lists. -/
structure SchemeResults where
  eligibleCount : Nat := 0
  partlyCount : Nat := 0
  notEligibleCount : Nat := 0
  eligible : List SchemeEntry := []
  partly : List SchemeEntry := []
  notEligible : List SchemeEntry := []
  /-- How many schemes hold something that could not be compared. -/
  degraded : Nat := 0
  deriving DecidableEq

namespace SchemeResults

/-- Puts an entry at the end of a band and counts it there. -/
def push (r : SchemeResults) (e : SchemeEntry) : Band → SchemeResults
  | .eligible =>
    { r with eligible := r.eligible ++ [e], eligibleCount := r.eligibleCount + 1 }
  | .partly =>
    { r with partly := r.partly ++ [e], partlyCount := r.partlyCount + 1 }
  | .notEligible =>
    { r with notEligible := r.notEligible ++ [e], notEligibleCount := r.notEligibleCount + 1 }

/-- How many schemes were counted in all bands. -/
def total (r : SchemeResults) : Nat :=
  r.eligibleCount + r.partlyCount + r.notEligibleCount

/-- Takes up a scheme that was placed. -/
def add (r : SchemeResults) (x : Placement) : SchemeResults :=
  let r := if x.isDegraded then { r with degraded := r.degraded + 1 } else r
  r.push x.entry x.band

end SchemeResults

/-- Matches a profile with schemes: each is placed by itself, then they are taken up in turn. -/
def Profile.matchSchemes (p : Profile) (schemes : List Scheme) (today : Date) (threshold : Nat) :
    SchemeResults :=
  (schemes.map fun s => s.placement p today threshold).foldl SchemeResults.add {}

/-- The JSON object of an entry. A scheme without a description has no such member. -/
def SchemeEntry.toJson (e : SchemeEntry) : Json :=
  .object
    ([("id", .text e.id), ("name", .text e.name)] ++
      (e.description.map fun d => ("description", Json.text d)).toList ++
      [("score", .nat e.score), ("reason", .text e.reason), ("missing", Json.texts e.missing)])

/-- The JSON object of the results. -/
def SchemeResults.toJson (r : SchemeResults) : Json :=
  let entries (es : List SchemeEntry) : Json := .array (es.map SchemeEntry.toJson)
  .object
    [("eligible_count", .nat r.eligibleCount), ("partial_count", .nat r.partlyCount),
     ("not_eligible_count", .nat r.notEligibleCount), ("eligible_schemes", entries r.eligible),
     ("partial_match_schemes", entries r.partly), ("not_eligible_schemes", entries r.notEligible),
     ("degraded_count", .nat r.degraded)]

end Entitlement
