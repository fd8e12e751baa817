import Entitlement.Service.Dashboard
import Entitlement.Proofs.Service.Publishing

/-!
# Sessions

Requests to a service, one after the other. Only publishing changes anything, and it keeps the
service accurate. So do sessions of any length, whatever becomes of their requests.
-/

namespace Entitlement

/-- A request to the service. -/
inductive Operation where
  | publish (schemeId : String)
  | recordedMatches (schemeId : String)
  | results (profileId : String)
  | dashboard (profileId : String)
  | check (p : Profile) (r : Ruleset)

/-- What the service answers to a request. -/
inductive Answer where
  | published (answer : Except ServiceError PublishOutcome)
  | recordedMatches (answer : Except ServiceError SchemeMatches)
  | results (answer : Except ServiceError SchemeResults)
  | dashboard (answer : Except ServiceError Dashboard)
  | check (answer : EligibilityCheck)

namespace Service

/-- Answers a request. -/
def perform (s : Service) : Operation → Answer × Service
  | .publish schemeId => (.published (s.publish schemeId).1, (s.publish schemeId).2)
  | .recordedMatches schemeId => (.recordedMatches (s.recordedMatches schemeId), s)
  | .results profileId => (.results (s.results profileId), s)
  | .dashboard profileId => (.dashboard (s.dashboard profileId), s)
  | .check p r => (.check (s.check p r), s)

/-- Answers requests in their order. -/
def performAll (s : Service) : List Operation → List Answer × Service
  | [] => ([], s)
  | op :: ops =>
    let (answer, next) := s.perform op
    let (answers, last) := next.performAll ops
    (answer :: answers, last)

variable {records : List Profile} {today : Date} {s : Service}

/-- Every request keeps the service accurate, also one that fails. -/
theorem perform_accurate (h : ProfileStore.Ascending records) (hs : s.Accurate records today)
    (op : Operation) : (s.perform op).2.Accurate records today := by
  cases op with
  | publish schemeId => exact publish_accurate h hs schemeId
  | recordedMatches | results | dashboard | check => exact hs

theorem performAll_accurate (h : ProfileStore.Ascending records) (hs : s.Accurate records today)
    (ops : List Operation) : (s.performAll ops).2.Accurate records today := by
  induction ops generalizing s with
  | nil => exact hs
  | cons op ops ih => exact ih (perform_accurate h hs op)

end Service

/-- A service on freshly loaded stores starts out accurate if no scheme of the catalog says that it
is published. -/
theorem Service.ofList_accurate {profiles : List Profile} {schemes : List Scheme} {today : Date}
    {threshold window : Nat} (hnone : ∀ t ∈ schemes, t.status ≠ .published) :
    (Service.mk (.ofList profiles) (.ofList schemes) today threshold window).Accurate
      (ProfileStore.ofList profiles).records today where
  records_eq := rfl
  today_eq := rfl
  published := fun t ht hpublished => absurd hpublished (hnone t ht)

/-- Whatever is asked of a service and however it ends, each scheme that says it is published has a
ruleset without errors and records exactly the citizens who are eligible, ascending by the bytes of
their ids, with their number. -/
theorem published_schemes_stay_accurate (profiles : List Profile) (schemes : List Scheme)
    (today : Date) (threshold window : Nat) (hnone : ∀ t ∈ schemes, t.status ≠ .published)
    (ops : List Operation) :
    let start : Service := ⟨.ofList profiles, .ofList schemes, today, threshold, window⟩
    let stored := (ProfileStore.ofList profiles).records
    ∀ t ∈ (start.performAll ops).2.schemes.records, t.status = .published →
      (∀ i ∈ t.conditions.issues, i.isError = false) ∧
      t.matchedProfiles = (stored.filter fun p =>
        p.isMatchable && (t.conditions.assess p today).verdict.isEligible).map (·.id) ∧
      (t.matchedProfiles.Pairwise fun a b => Text.bytes a < Text.bytes b) ∧
      t.totalMatches = t.matchedProfiles.length ∧
      ∀ p ∈ stored, p.role = .admin → p.id ∉ t.matchedProfiles := by
  intro start stored t ht hpublished
  have hlast : (start.performAll ops).2.Accurate stored today :=
    Service.performAll_accurate (ProfileStore.ofList_ascending profiles)
      (Service.ofList_accurate hnone) ops
  obtain ⟨hclean, hmatched, hascending, htotal, hadmin⟩ := hlast.published t ht hpublished
  exact ⟨hclean, hmatched, hascending, htotal, hadmin⟩

theorem session_with_one_scheme_stays_accurate :
    let today : Date := ⟨2024, 6, 15, by decide, by decide, by decide⟩
    let citizen : Profile := { id := "p-2", state := some "Kerala" }
    let admin : Profile := { id := "p-1", role := .admin, state := some "Kerala" }
    let draft : Scheme :=
      { id := "s-1", name := "Merit", deadline := today,
        conditions := [.allOf [⟨.known .state, .known .equals, .text "Kerala"⟩]] }
    let start : Service :=
      { profiles := .ofList [citizen, admin], schemes := .ofList [draft], today }
    let last := (start.performAll [.publish "s-9", .publish "s-1", .dashboard "p-2"]).2
    (∀ t ∈ [draft], t.status ≠ .published) ∧
      ∃ t ∈ last.schemes.records, t.status = .published ∧ t.matchedProfiles = ["p-2"] ∧
        (∀ i ∈ t.conditions.issues, i.isError = false) ∧
        t.totalMatches = t.matchedProfiles.length ∧ admin.id ∉ t.matchedProfiles := by
  intro today citizen admin draft start last
  have hnone : ∀ t ∈ [draft], t.status ≠ .published := by decide +kernel
  have hrecords : last.schemes.records =
      [{ draft with status := .published, matchedProfiles := ["p-2"], totalMatches := 1 }] := by
    decide +kernel
  have hadmin : admin ∈ start.profiles.records := by decide +kernel
  have ht := published_schemes_stay_accurate [citizen, admin] [draft] today defaultThreshold
    defaultWindow hnone [.publish "s-9", .publish "s-1", .dashboard "p-2"]
    _ (hrecords ▸ List.mem_singleton_self _) rfl
  obtain ⟨hclean, _, _, htotal, hnoAdmin⟩ := ht
  exact ⟨hnone, _, hrecords ▸ List.mem_singleton_self _, rfl, rfl, hclean, htotal,
    hnoAdmin admin hadmin rfl⟩

end Entitlement
