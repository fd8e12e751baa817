import Entitlement.Service.Publishing
import Entitlement.Proofs.Matching

/-!
# What publishing records

A scheme that says it is published names the profiles that are entitled to it, as the profile store
has them. The proof goes step by step, so that it holds for a request that other requests come in
between as well: what a request carries from one step to the next is right by the profiles alone,
whatever has become of the scheme store.
-/

namespace Entitlement

/-! ### Accurate schemes, requests and services -/

/-- Holds when the ruleset has no errors. Warnings do not count. -/
def Ruleset.Clean (r : Ruleset) : Prop :=
  ∀ i ∈ r.issues, i.isError = false

/-- The ids of the profiles of citizens that are eligible under a ruleset. -/
def Ruleset.entitled (r : Ruleset) (records : List Profile) (today : Date) : List String :=
  (records.filter fun p => p.isMatchable && (r.assess p today).verdict.isEligible).map (·.id)

/-- What a published scheme has to record, by the stored profiles and the day. -/
structure Scheme.Accurate (t : Scheme) (records : List Profile) (today : Date) : Prop where
  clean : t.conditions.Clean
  matched : t.matchedProfiles = t.conditions.entitled records today
  ascending : t.matchedProfiles.Pairwise fun a b => Text.bytes a < Text.bytes b
  total : t.totalMatches = t.matchedProfiles.length
  noAdmin : ∀ p ∈ records, p.role = .admin → p.id ∉ t.matchedProfiles

/-- What a request to publish has to carry between its steps. -/
def Publishing.Accurate (records : List Profile) (today : Date) : Publishing → Prop
  | .requested _ | .finished _ => True
  | .fetched t _ => t.conditions.Clean
  | .matched t _ => t.Accurate records today

/-- A service on the given profiles and day whose published schemes are all accurate. -/
structure Service.Accurate (s : Service) (records : List Profile) (today : Date) : Prop where
  records_eq : s.profiles.records = records
  today_eq : s.today = today
  published : ∀ t ∈ s.schemes.records, t.status = .published → t.Accurate records today

variable {records : List Profile} {today : Date} {s : Service}

/-! ### The matches -/

theorem Ruleset.entitled_ascending (r : Ruleset) (h : ProfileStore.Ascending records) :
    (r.entitled records today).Pairwise fun a b => Text.bytes a < Text.bytes b := by
  rw [entitled, List.pairwise_map]
  refine List.Pairwise.imp ?_ (List.Pairwise.filter _ h)
  exact fun hlt => Text.bytes_lt_iff.mpr hlt

/-- Administrators are left out, and no citizen shares an id with one. -/
theorem Ruleset.not_mem_entitled_of_admin (r : Ruleset) (h : ProfileStore.Ascending records)
    {p : Profile} (hp : p ∈ records) (hadmin : p.role = .admin) :
    p.id ∉ r.entitled records today := by
  intro hmem
  obtain ⟨q, hq, hid⟩ := List.mem_map.mp hmem
  obtain ⟨hq, hcitizen⟩ := List.mem_filter.mp hq
  have hqp : q = p := h.eq_of_id_eq hq hp hid
  rw [hqp, Profile.isMatchable, hadmin] at hcitizen
  simp at hcitizen

theorem Ruleset.matchProfiles_matchable (r : Ruleset) (today : Date)
    (h : ProfileStore.Ascending records) :
    (r.matchProfiles (records.filter (·.isMatchable)) today).matched =
      r.entitled records today := by
  rw [matchProfiles_matched r (List.Pairwise.filter _ h), List.filter_filter, entitled]
  simp only [Bool.and_comm]

/-- A scheme without errors is accurate once it is published with what was found. -/
theorem Scheme.publishedWith_accurate {t : Scheme} (h : ProfileStore.Ascending records)
    (hclean : t.conditions.Clean) :
    (t.publishedWith (t.conditions.matchProfiles (records.filter (·.isMatchable)) today)).Accurate
      records today := by
  have hmatched := Ruleset.matchProfiles_matchable t.conditions today h
  refine ⟨hclean, hmatched, ?_, rfl, ?_⟩
  · rw [publishedWith, hmatched]
    exact Ruleset.entitled_ascending t.conditions h
  · intro p hp hadmin
    rw [publishedWith, hmatched]
    exact Ruleset.not_mem_entitled_of_admin t.conditions h hp hadmin

/-! ### Steps and runs -/

/-- A request gets past the fetch only with a ruleset without errors. -/
theorem Publishing.afterFetch_accurate (schemeId : String) (t : Scheme) :
    (afterFetch schemeId t).Accurate records today := by
  rw [afterFetch]
  split_ifs with herrors
  · intro i hi
    by_contra herror
    have hmem : i ∈ t.conditions.issues.filter (·.isError) :=
      List.mem_filter.mpr ⟨hi, by simpa using herror⟩
    rw [List.isEmpty_iff.mp herrors] at hmem
    exact List.not_mem_nil hmem
  · trivial

/-- A step of a request keeps the service and the request accurate. -/
theorem Publishing.step_accurate (h : ProfileStore.Ascending records)
    (hs : s.Accurate records today) {q : Publishing} (hq : q.Accurate records today) :
    (q.step s).1.Accurate records today ∧ (q.step s).2.Accurate records today := by
  cases q with
  | requested schemeId =>
    rw [step]
    cases s.scheme schemeId with
    | error e => exact ⟨trivial, hs⟩
    | ok t => exact ⟨afterFetch_accurate schemeId t, hs⟩
  | fetched t warnings =>
    rw [step]
    cases hall : s.profiles.all with
    | error e => exact ⟨trivial, hs⟩
    | ok profiles =>
      have hprofiles : profiles = records := (ProfileStore.all_eq_ok hall).trans hs.records_eq
      dsimp only
      rw [hprofiles, hs.today_eq]
      exact ⟨Scheme.publishedWith_accurate h hq, hs⟩
  | matched t outcome =>
    rw [step]
    cases hupdate : s.schemes.update t with
    | error e => exact ⟨trivial, hs⟩
    | ok schemes =>
      refine ⟨trivial, hs.records_eq, hs.today_eq, ?_⟩
      intro u hu hpublished
      rcases SchemeStore.eq_or_mem_of_update hupdate hu with rfl | hold
      -- the scheme put back is the one that the request carried
      · exact hq
      · exact hs.published u hold hpublished
  | finished answer => exact ⟨trivial, hs⟩

/-- So do all steps that a request has left. -/
theorem Publishing.run_accurate (h : ProfileStore.Ascending records) (q : Publishing) :
    s.Accurate records today → q.Accurate records today →
      (q.run s).2.Accurate records today := by
  fun_induction Publishing.run s q with
  | case1 s answer => exact fun hs _ => hs
  | case2 s schemeId ih | case3 s t warnings ih | case4 s t outcome ih =>
    intro hs hq
    obtain ⟨hq', hs'⟩ := step_accurate h hs hq
    exact ih hs' hq'

theorem Service.publish_accurate (h : ProfileStore.Ascending records)
    (hs : s.Accurate records today) (schemeId : String) :
    (s.publish schemeId).2.Accurate records today :=
  Publishing.run_accurate h (.requested schemeId) hs trivial

end Entitlement
