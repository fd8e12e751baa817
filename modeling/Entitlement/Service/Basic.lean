import Entitlement.Matching
import Entitlement.Store
import Entitlement.Validation

/-!
# The eligibility service

What can be asked of the stores: how a profile stands with every scheme, which profiles a scheme
was last found to match, and how a profile stands with a ruleset that no scheme has.
-/

namespace Entitlement

/-- The default number of days in which a deadline counts as near. -/
def defaultWindow : Nat := 7

/-- A service: its stores, the day on which it evaluates, and how it classifies. -/
structure Service where
  profiles : ProfileStore
  schemes : SchemeStore
  today : Date
  threshold : Nat := defaultThreshold
  /-- In how many days a deadline is near. -/
  window : Nat := defaultWindow
  deriving DecidableEq

/-! ### Errors -/

/-- Why the service gives no answer. -/
inductive ServiceError where
  | store (e : StoreError)
  | profileNotFound (id : String)
  | schemeNotFound (id : String)
  | invalidRuleset (schemeId : String) (issues : List Issue)
  deriving DecidableEq

/-- The message for a request without an answer. -/
def ServiceError.message : ServiceError → String
  | .store e => e.message
  | .profileNotFound id => "profile " ++ id ++ " not found"
  | .schemeNotFound id => "scheme " ++ id ++ " not found"
  | .invalidRuleset id issues =>
    "scheme " ++ id ++ " has " ++ toString issues.length ++ " invalid rule(s)"

/-! ### Answers -/

/-- What was recorded when a scheme was last published. -/
structure SchemeMatches where
  schemeId : String
  status : SchemeStatus
  matchedProfiles : List String
  total : Nat
  deriving DecidableEq

/-- The JSON object of the recorded matches. -/
def SchemeMatches.toJson (m : SchemeMatches) : Json :=
  .object
    [("scheme_id", .text m.schemeId), ("status", .text m.status.name),
     ("matched_profiles", Json.texts m.matchedProfiles), ("total", .nat m.total)]

/-- How a profile stands with a ruleset. -/
structure EligibilityCheck where
  verdict : Verdict
  band : Band
  deriving DecidableEq

/-- The JSON object of a check: the verdict's members, and the band with its reason. -/
def EligibilityCheck.toJson (c : EligibilityCheck) : Json :=
  .object (c.verdict.members ++
    [("band", .text c.band.name), ("reason", .text c.band.reason)])

namespace Service

/-- The profile with the given id. -/
def profile (s : Service) (id : String) : Except ServiceError Profile :=
  match s.profiles.fetch id with
  | .error e => .error (.store e)
  | .ok none => .error (.profileNotFound id)
  | .ok (some p) => .ok p

/-- The first scheme with the given id. -/
def scheme (s : Service) (id : String) : Except ServiceError Scheme :=
  match s.schemes.fetch id with
  | .error e => .error (.store e)
  | .ok none => .error (.schemeNotFound id)
  | .ok (some scheme) => .ok scheme

/-- All schemes. -/
def catalog (s : Service) : Except ServiceError (List Scheme) :=
  s.schemes.all.mapError .store

/-- What was recorded of a scheme. -/
def recordedMatches (s : Service) (schemeId : String) : Except ServiceError SchemeMatches := do
  let scheme ← s.scheme schemeId
  return ⟨scheme.id, scheme.status, scheme.matchedProfiles, scheme.totalMatches⟩

/-- How a stored profile stands with every scheme. -/
def results (s : Service) (profileId : String) : Except ServiceError SchemeResults := do
  let profile ← s.profile profileId
  let schemes ← s.catalog
  return profile.matchSchemes schemes s.today s.threshold

/-- How any profile stands with any ruleset. -/
def check (s : Service) (p : Profile) (r : Ruleset) : EligibilityCheck :=
  let verdict := (r.assess p s.today).verdict
  ⟨verdict, verdict.band s.threshold⟩

end Service

end Entitlement
