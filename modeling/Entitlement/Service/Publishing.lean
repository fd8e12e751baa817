import Entitlement.Service.Basic

/-!
# Publishing

A scheme is published together with the profiles that are eligible for it. A request takes three
steps, each of which uses one store once: the scheme is fetched, the profiles are listed, and the
scheme is put back. A ruleset with errors stops the request after the first step; warnings go into
the outcome.
-/

namespace Entitlement

/-- What came of publishing a scheme. -/
structure PublishOutcome where
  schemeId : String
  status : SchemeStatus
  /-- How many profiles were assessed. -/
  evaluated : Nat
  matchedProfiles : List String
  totalMatches : Nat
  degraded : Nat
  warnings : List String
  deriving DecidableEq

/-- The JSON object of an outcome. -/
def PublishOutcome.toJson (o : PublishOutcome) : Json :=
  .object
    [("scheme_id", .text o.schemeId), ("status", .text o.status.name),
     ("evaluated", .nat o.evaluated), ("matched_profiles", Json.texts o.matchedProfiles),
     ("total_matches", .nat o.totalMatches), ("degraded", .nat o.degraded),
     ("warnings", Json.texts o.warnings)]

/-- The scheme as published with the given matches. -/
def Scheme.publishedWith (s : Scheme) (m : PopulationMatch) : Scheme :=
  { s with
    status := .published
    matchedProfiles := m.matched
    totalMatches := m.count }

/-- Where a request to publish stands between its steps. -/
inductive Publishing where
  | requested (schemeId : String)
  /-- The scheme was fetched and has no errors. -/
  | fetched (scheme : Scheme) (warnings : List Issue)
  /-- The profiles were matched; the scheme is as it will be. -/
  | matched (scheme : Scheme) (outcome : PublishOutcome)
  | finished (answer : Except ServiceError PublishOutcome)

namespace Publishing

/-- A request whose scheme has been fetched, which ends here if the ruleset has errors. -/
def afterFetch (schemeId : String) (scheme : Scheme) : Publishing :=
  let issues := scheme.conditions.issues
  let errors := issues.filter (·.isError)
  if errors.isEmpty then .fetched scheme (issues.filter (!·.isError))
  else .finished (.error (.invalidRuleset schemeId errors))

/-- A request whose scheme was matched with all profiles but those of administrators. -/
def afterListing (scheme : Scheme) (warnings : List Issue) (profiles : List Profile)
    (today : Date) : Publishing :=
  let population := profiles.filter (·.isMatchable)
  let found := scheme.conditions.matchProfiles population today
  .matched (scheme.publishedWith found)
    { schemeId := scheme.id
      status := .published
      evaluated := population.length
      matchedProfiles := found.matched
      totalMatches := found.count
      degraded := found.degraded
      warnings := warnings.map (·.message) }

/-- Takes the next step of a request. -/
def step (s : Service) : Publishing → Publishing × Service
  | .requested schemeId =>
    match s.scheme schemeId with
    | .error e => (.finished (.error e), s)
    | .ok scheme => (afterFetch schemeId scheme, s)
  | .fetched scheme warnings =>
    match s.profiles.all with
    | .error e => (.finished (.error (.store e)), s)
    | .ok profiles => (afterListing scheme warnings profiles s.today, s)
  | .matched scheme outcome =>
    match s.schemes.update scheme with
    | .error e => (.finished (.error (.store e)), s)
    | .ok schemes => (.finished (.ok outcome), { s with schemes })
  | .finished answer => (.finished answer, s)

/-- How many steps a request has left at most. -/
def remaining : Publishing → Nat
  | .requested _ => 3
  | .fetched _ _ => 2
  | .matched _ _ => 1
  | .finished _ => 0

/-- A step leaves fewer steps to take, unless there are none. -/
theorem remaining_step_lt (s : Service) (p : Publishing) (h : p.remaining ≠ 0) :
    (p.step s).1.remaining < p.remaining := by
  cases p with
  | requested schemeId =>
    simp only [step]
    cases s.scheme schemeId with
    | error e => simp [remaining]
    | ok scheme =>
      simp only [afterFetch]
      split <;> simp [remaining]
  | fetched scheme warnings =>
    simp only [step]
    cases s.profiles.all with
    | error e => simp [remaining]
    | ok profiles => simp [afterListing, remaining]
  | matched scheme outcome =>
    simp only [step]
    cases s.schemes.update scheme <;> simp [remaining]
  | finished answer => exact absurd rfl h

/-- Takes all steps that a request has left, one right after the other. -/
def run (s : Service) : Publishing → Except ServiceError PublishOutcome × Service
  | .finished answer => (answer, s)
  | .requested schemeId =>
    run (step s (.requested schemeId)).2 (step s (.requested schemeId)).1
  | .fetched scheme warnings =>
    run (step s (.fetched scheme warnings)).2 (step s (.fetched scheme warnings)).1
  | .matched scheme outcome =>
    run (step s (.matched scheme outcome)).2 (step s (.matched scheme outcome)).1
  termination_by p => p.remaining
  decreasing_by all_goals exact remaining_step_lt s _ (by simp [remaining])

end Publishing

/-- Publishes a scheme. The service stays as it was when that fails. -/
def Service.publish (s : Service) (schemeId : String) :
    Except ServiceError PublishOutcome × Service :=
  Publishing.run s (.requested schemeId)

end Entitlement
