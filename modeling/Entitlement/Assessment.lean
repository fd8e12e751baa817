import Entitlement.Check.Condition
import Entitlement.Json.Record

/-!
# Assessments

A profile assessed against a ruleset: a score from 0 to 100 for the share of groups that pass, the
requirements that are missing, and the band that an applicant is shown.
-/

namespace Entitlement

/-! ### Verdicts -/

/-- What an assessment says to the applicant. -/
structure Verdict where
  isEligible : Bool
  score : Nat
  missing : List String
  deriving DecidableEq

/-- The verdict when nothing is required. -/
def Verdict.universal : Verdict := ⟨true, 100, []⟩

open Json in
/-- Reads a verdict, whose score fits 8 bits. -/
def Verdict.ofJson : Reader Verdict
  | .object members => do
    let isEligible ← readMember members "isEligible" readBool
    let missing ← readMember members "missing" (readList readText)
    let score ← readMember members "score" readNat8
    return ⟨← required "isEligible" isEligible, ← required "score" score,
      ← required "missing" missing⟩
  | .array items => do
    let shape := "struct EligibilityResult with 3 elements"
    let isEligible ← readItem shape items 0 readBool
    let score ← readItem shape items 1 readNat8
    let missing ← readItem shape items 2 (readList readText)
    checkLength items 3
    return ⟨isEligible, score, missing⟩
  | v => wrongType v "struct EligibilityResult"

/-- The members of a verdict in JSON. -/
def Verdict.members (v : Verdict) : List (String × Json) :=
  [("isEligible", .bool v.isEligible), ("score", .nat v.score), ("missing", Json.texts v.missing)]

/-! ### Assessments -/

/-- A verdict with the counts behind it. -/
structure Assessment where
  verdict : Verdict
  matchedGroups : Nat
  totalGroups : Nat
  /-- How many of the rows listed by failing groups could not be compared. -/
  refusedConditions : Nat
  deriving DecidableEq

/-- Holds when something could not be compared. -/
def Assessment.isDegraded (a : Assessment) : Bool :=
  0 < a.refusedConditions

/-- The percentage that `matched` is of `total`, a half rounded up, and 100 at most. -/
def roundedPercentage (matched total : Nat) : Nat :=
  min 100 ((200 * matched + total) / (2 * total))

/-- Adds a requirement to a list that does not hold it yet. -/
def addMissing (missing : List String) (requirement : String) : List String :=
  if missing.contains requirement then missing else missing ++ [requirement]

/-- Assesses a profile. A requirement that several rows state is listed once, where it comes
first; refusals are counted row by row. -/
def Ruleset.assess (r : Ruleset) (p : Profile) (today : Date) : Assessment :=
  if r.isEmpty then ⟨.universal, 0, 0, 0⟩
  else
    let results := r.map fun g => g.evaluate p today
    let matched := (results.filter (·.passed)).length
    let failures := (results.filter (!·.passed)).flatMap (·.failures)
    { verdict :=
        { isEligible := matched = r.length
          score := roundedPercentage matched r.length
          missing := (failures.map (·.condition.describe)).foldl addMissing [] }
      matchedGroups := matched
      totalGroups := r.length
      refusedConditions := (failures.filter (·.outcome.isRefused)).length }

/-! ### Bands -/

/-- How an applicant stands with a scheme. -/
inductive Band where
  | eligible
  | partly
  | notEligible
  deriving DecidableEq

namespace Band

/-- All bands, from the best to the worst. -/
def all : List Band := [.eligible, .partly, .notEligible]

/-- The name of the band, as written in JSON. -/
def name : Band → String
  | .eligible => "eligible"
  | .partly => "partial"
  | .notEligible => "not_eligible"

/-- The band in words to the applicant. -/
def reason : Band → String
  | .eligible => "You meet all eligibility criteria"
  | .partly => "You partially meet the eligibility criteria"
  | .notEligible => "You do not meet the eligibility criteria"

end Band

/-- The threshold that scores have to pass to count as partly eligible, unless another is set. -/
def defaultThreshold : Nat := 50

/-- The band of a verdict. A full score counts as eligible, a score above the threshold as partly
eligible. -/
def Verdict.band (v : Verdict) (threshold : Nat) : Band :=
  if v.isEligible ∨ v.score = 100 then .eligible
  else if threshold < v.score then .partly
  else .notEligible

end Entitlement
