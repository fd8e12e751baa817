import Entitlement.Proofs.Service.Frame
import Entitlement.Proofs.Service.Session
import Entitlement.Proofs.Service.Views

/-!
# What stays recorded

Publishing looks from a scheme at all profiles and keeps what it finds; a dashboard looks from a
profile at all schemes and works it out again. Both see the same, because what is found depends on
the profiles, the rules and the day alone, and these never change. For that reason a scheme that was
published once is settled: whatever is asked of the service later, publishing it again included,
leaves it as it is.
-/

namespace Entitlement

/-! ### Lookups after a change -/

namespace SchemeStore

variable {f : Scheme → Scheme} {id other : String} {t : Scheme}

theorem find?_amend (hid : ∀ t, (f t).id = t.id) : ∀ records : List Scheme,
    (amend f id records).find? (·.id = id) = (records.find? (·.id = id)).map f
  | [] => rfl
  | u :: rest => by
    by_cases hu : u.id = id
    · simp [amend, hid, hu]
    · simp [amend, hu, find?_amend hid rest]

theorem find?_amend_of_ne (hid : ∀ t, (f t).id = t.id) (hne : other ≠ id) :
    ∀ records : List Scheme,
      (amend f other records).find? (·.id = id) = records.find? (·.id = id)
  | [] => rfl
  | u :: rest => by
    by_cases hu : u.id = other
    · simp [amend, hid, hu, hne]
    · rw [amend, if_neg hu, List.find?_cons, List.find?_cons, find?_amend_of_ne hid hne rest]

end SchemeStore

/-! ### Who is found -/

variable {records : List Profile} {p : Profile} {today : Date}

theorem ProfileStore.Ascending.find?_id (h : ProfileStore.Ascending records) (hp : p ∈ records) :
    records.find? (·.id = p.id) = some p := by
  have hsome : (records.find? (·.id = p.id)).isSome = true :=
    List.find?_isSome.mpr ⟨p, hp, by simp⟩
  obtain ⟨q, hq⟩ := Option.isSome_iff_exists.mp hsome
  have hid : q.id = p.id := by simpa using List.find?_some hq
  rw [hq, h.eq_of_id_eq (List.mem_of_find?_eq_some hq) hp hid]

/-- A citizen is among the entitled exactly when eligible; no other profile has the id. -/
theorem Ruleset.mem_entitled_iff (r : Ruleset) (h : ProfileStore.Ascending records)
    (hp : p ∈ records) (hcitizen : p.role ≠ .admin) :
    p.id ∈ r.entitled records today ↔ (r.assess p today).verdict.isEligible = true := by
  rw [entitled, List.mem_map]
  constructor
  · rintro ⟨q, hq, hid⟩
    obtain ⟨hq, hfound⟩ := List.mem_filter.mp hq
    have hqp : q = p := h.eq_of_id_eq hq hp hid
    rw [hqp, Bool.and_eq_true] at hfound
    exact hfound.2
  · intro heligible
    refine ⟨p, List.mem_filter.mpr ⟨hp, ?_⟩, rfl⟩
    rw [Bool.and_eq_true, Profile.isMatchable]
    exact ⟨decide_eq_true hcitizen, heligible⟩

namespace Service

variable {s s' : Service} {id other : String} {t u : Scheme}

/-! ### Requests leave all but the record alone -/

theorem unpublished_perform (s : Service) (op : Operation) :
    (s.perform op).2.unpublished = s.unpublished := by
  cases op with
  | publish schemeId => exact unpublished_publish s schemeId
  | recordedMatches | results | dashboard | check => rfl

theorem unpublished_performAll (s : Service) (ops : List Operation) :
    (s.performAll ops).2.unpublished = s.unpublished := by
  induction ops generalizing s with
  | nil => rfl
  | cons op ops ih => exact (ih (s.perform op).2).trans (unpublished_perform s op)

theorem ids_eq_of_unpublished (h : s'.unpublished = s.unpublished) :
    s'.schemes.records.map (·.id) = s.schemes.records.map (·.id) := by
  have hids (s : Service) :
      s.unpublished.schemes.records.map (·.id) = s.schemes.records.map (·.id) := List.map_map
  rw [← hids s', h, hids s]

/-! ### Settled schemes -/

/-- Holds when the first scheme with an id is the given one, and publishing it would change
nothing. -/
structure Settled (s : Service) (id : String) (u : Scheme) : Prop where
  scheme : s.scheme id = .ok u
  published : s.published u = u

theorem scheme_amended (hs : s.scheme id = .ok t) :
    (s.amended id).scheme id = .ok (s.published t) := by
  obtain ⟨hout, hfind⟩ := scheme_eq_ok_iff.mp hs
  refine scheme_eq_ok_iff.mpr ⟨hout, ?_⟩
  rw [amended, SchemeStore.find?_amend (f := s.published) (fun _ => rfl), hfind, Option.map_some]

theorem scheme_amended_of_ne (hne : other ≠ id) : (s.amended other).scheme id = s.scheme id := by
  rw [Service.scheme, Service.scheme, SchemeStore.fetch, SchemeStore.fetch, amended,
    SchemeStore.find?_amend_of_ne (f := s.published) (fun _ => rfl) hne]

theorem published_amended (s : Service) (id : String) (t : Scheme) :
    (s.amended id).published t = s.published t :=
  published_eq_of_unpublished (unpublished_amended s id) rfl

theorem settled_amended (hs : s.scheme id = .ok t) :
    (s.amended id).Settled id (s.published t) where
  scheme := scheme_amended hs
  published := by rw [published_amended, published_published]

theorem Settled.amended (h : s.Settled id u) (other : String) :
    (s.amended other).Settled id u where
  scheme := by
    rcases eq_or_ne other id with rfl | hne
    · rw [scheme_amended h.scheme, h.published]
    · rw [scheme_amended_of_ne hne, h.scheme]
  published := by rw [published_amended, h.published]

theorem Settled.perform (h : s.Settled id u) (op : Operation) :
    (s.perform op).2.Settled id u := by
  cases op with
  | publish schemeId =>
    rw [Service.perform, publish_snd]
    split_ifs
    · exact h.amended schemeId
    · exact h
  | recordedMatches | results | dashboard | check => exact h

theorem Settled.performAll (h : s.Settled id u) (ops : List Operation) :
    (s.performAll ops).2.Settled id u := by
  induction ops generalizing s with
  | nil => exact h
  | cons op ops ih => exact ih (h.perform op)

theorem Settled.recordedMatches (h : s.Settled id u) :
    s.recordedMatches id = .ok ⟨u.id, u.status, u.matchedProfiles, u.totalMatches⟩ := by
  rw [Service.recordedMatches, h.scheme]
  rfl

/-! ### Dashboards -/

theorem profile_of_mem (h : ProfileStore.Ascending s.profiles.records)
    (hout : s.profiles.outage = none) (hp : p ∈ s.profiles.records) :
    s.profile p.id = .ok p := by
  rw [profile, ProfileStore.fetch, hout, h.find?_id hp]
  rfl

theorem catalog_of_no_outage (hout : s.schemes.outage = none) :
    s.catalog = .ok s.schemes.records := by
  rw [catalog, SchemeStore.all, hout]
  rfl

/-- A settled scheme records whoever has it on the dashboard until its deadline. -/
theorem Settled.exists_dashboard (h : s.Settled id u)
    (hprofiles : ProfileStore.Ascending s.profiles.records) (hout : s.profiles.outage = none)
    (hids : (s.schemes.records.map (·.id)).Nodup) (hp : p ∈ s.profiles.records)
    (hcitizen : p.role ≠ .admin) :
    ∃ dashboard, s.dashboard p.id = .ok dashboard ∧
      (id ∈ dashboard.eligible.map (·.id) ↔
        s.today ≤ u.deadline ∧ p.id ∈ u.matchedProfiles) := by
  obtain ⟨hschemes, hfind⟩ := scheme_eq_ok_iff.mp h.scheme
  have hid : u.id = id := by simpa using List.find?_some hfind
  have hu : u ∈ s.schemes.records := List.mem_of_find?_eq_some hfind
  obtain ⟨dashboard, hdashboard, hshown⟩ :=
    Service.exists_dashboard (profile_of_mem hprofiles hout hp) (catalog_of_no_outage hschemes)
  refine ⟨dashboard, hdashboard, ?_⟩
  have hmatched : u.matchedProfiles = u.conditions.entitled s.profiles.records s.today := by
    rw [← Ruleset.matchProfiles_matchable u.conditions s.today hprofiles]
    exact congrArg Scheme.matchedProfiles h.published.symm
  have hactive : u.isActive s.today = true ↔ s.today ≤ u.deadline := by
    have hstatus : u.status = .published := congrArg Scheme.status h.published.symm
    simp [Scheme.isActive, hstatus]
  rw [hshown, ← hid, exists_mem_id_eq_iff hids hu, hactive, hmatched,
    Ruleset.mem_entitled_iff u.conditions hprofiles hp hcitizen]

end Service

/-- Once a scheme has been published in a session, a citizen has it on the dashboard until its
deadline exactly when the outcome names the citizen, and the recorded matches are those of the
outcome, at once and whatever is asked later on. -/
theorem published_matches_agree_with_dashboards (profiles : List Profile) (schemes : List Scheme)
    (today : Date) (threshold window : Nat) (hids : (schemes.map (·.id)).Nodup)
    (before : List Operation) (schemeId : String) (o : PublishOutcome) :
    let start : Service := ⟨.ofList profiles, .ofList schemes, today, threshold, window⟩
    let s := (start.performAll before).2
    (s.publish schemeId).1 = .ok o →
    ∃ t ∈ schemes, t.id = schemeId ∧ ∀ after,
      let last := ((s.publish schemeId).2.performAll after).2
      last.recordedMatches schemeId =
        .ok ⟨schemeId, .published, o.matchedProfiles, o.totalMatches⟩ ∧
      ∀ p ∈ (ProfileStore.ofList profiles).records, p.role ≠ .admin →
        ∃ dashboard, last.dashboard p.id = .ok dashboard ∧
          (schemeId ∈ dashboard.eligible.map (·.id) ↔
            today ≤ t.deadline ∧ p.id ∈ o.matchedProfiles) := by
  intro start s ho
  have hs : s.unpublished = start.unpublished := Service.unpublished_performAll start before
  obtain ⟨e, _, hp⟩ | ⟨t, _, _, hp⟩ | ⟨t, e, _, _, _, hp⟩ | ⟨t, ht, _, hout, hp⟩ :=
    Service.publish_cases s schemeId <;> rw [hp] at ho <;> cases ho
  -- the scheme as it was in the catalog, before any request
  obtain ⟨first, hfirst, hsame⟩ := Service.exists_scheme_of_unpublished hs.symm ht
  obtain ⟨_, hfind⟩ := Service.scheme_eq_ok_iff.mp hfirst
  have hid : first.id = schemeId := by simpa using List.find?_some hfind
  refine ⟨first, List.mem_of_find?_eq_some hfind, hid, fun after => ?_⟩
  intro last
  have hsettled : last.Settled schemeId (s.published t) := by
    have hnext : (s.publish schemeId).2 = s.amended schemeId := congrArg Prod.snd hp
    have hafter := (Service.settled_amended ht).performAll after
    rwa [← hnext] at hafter
  have hlast : last.unpublished = start.unpublished :=
    (Service.unpublished_performAll _ after).trans
      ((Service.unpublished_publish s schemeId).trans hs)
  have hprofiles : last.profiles = .ofList profiles := Service.profiles_eq_of_unpublished hlast
  have htoday : last.today = today := Service.today_eq_of_unpublished hlast
  have hdeadline : (s.published t).deadline = first.deadline := by
    have heq := congrArg Scheme.deadline hsame.symm
    exact heq
  have hname : (s.published t).id = schemeId := by
    have heq := congrArg Scheme.id hsame.symm
    exact heq.trans hid
  refine ⟨by rw [hsettled.recordedMatches, hname]; rfl, fun p hmem hcitizen => ?_⟩
  rw [← hdeadline, ← htoday]
  refine hsettled.exists_dashboard ?_ ?_ ?_ ?_ hcitizen
  · rw [hprofiles]
    exact ProfileStore.ofList_ascending profiles
  · rw [hprofiles]
    rfl
  · rw [Service.ids_eq_of_unpublished hlast]
    exact hids
  · rw [hprofiles]
    exact hmem

/-- A scheme that is published, and again after another one whose deadline has passed. -/
theorem publishing_twice_records_the_same_matches :
    let today : Date := ⟨2024, 6, 15, by decide, by decide, by decide⟩
    let past : Date := ⟨2024, 6, 14, by decide, by decide, by decide⟩
    let rules : Ruleset := [.allOf [⟨.known .state, .known .equals, .text "Kerala"⟩]]
    let p : Profile := { id := "p-1", state := some "Kerala" }
    let q : Profile := { id := "p-2", state := some "Goa" }
    let t : Scheme := { id := "s-1", name := "Merit", deadline := today, conditions := rules }
    let u : Scheme := { id := "s-2", name := "Late", deadline := past, conditions := rules }
    let start : Service := { profiles := .ofList [p, q], schemes := .ofList [t, u], today }
    let s := (start.performAll [.results "p-1"]).2
    let after : List Operation := [.publish "s-2", .publish "s-1", .publish "s-9"]
    let last := ((s.publish "s-1").2.performAll after).2
    ([t, u].map (·.id)).Nodup ∧ ∃ o, (s.publish "s-1").1 = .ok o ∧ o.matchedProfiles = ["p-1"] ∧
      last.recordedMatches "s-1" = .ok ⟨"s-1", .published, ["p-1"], 1⟩ ∧
      (∃ dashboard, last.dashboard "p-1" = .ok dashboard ∧
        "s-1" ∈ dashboard.eligible.map (·.id)) ∧
      ∃ dashboard, last.dashboard "p-2" = .ok dashboard ∧
        "s-1" ∉ dashboard.eligible.map (·.id) := by
  intro today past rules p q t u start s after last
  have hids : ([t, u].map (·.id)).Nodup := by decide
  have hclean : t.conditions.Clean := by
    rw [Ruleset.Clean]
    decide +kernel
  have hpublished : (s.publish "s-1").1 = .ok (s.outcome t) := by
    rw [Service.publish_of_clean rfl hclean rfl]
  have hmatched : (s.outcome t).matchedProfiles = ["p-1"] := by decide +kernel
  have htotal : (s.outcome t).totalMatches = 1 := by decide +kernel
  obtain ⟨first, hfirst, hid, hlast⟩ := published_matches_agree_with_dashboards [p, q] [t, u] today
    defaultThreshold defaultWindow hids [.results "p-1"] "s-1" (s.outcome t) hpublished
  have hdeadline : first.deadline = today := by
    have hft : first = t := List.inj_on_of_nodup_map hids hfirst List.mem_cons_self hid
    rw [hft]
  obtain ⟨hrecorded, hboards⟩ := hlast after
  rw [hmatched, hdeadline] at hboards
  rw [hmatched, htotal] at hrecorded
  obtain ⟨mine, hmine, hshown⟩ := hboards p (by decide +kernel) (by decide)
  obtain ⟨other, hother, hhidden⟩ := hboards q (by decide +kernel) (by decide)
  refine ⟨hids, s.outcome t, hpublished, hmatched, hrecorded, ⟨mine, hmine, ?_⟩,
    other, hother, ?_⟩
  · exact hshown.mpr ⟨by decide, by decide⟩
  · exact fun hlisted => absurd (hhidden.mp hlisted).2 (by decide)

end Entitlement
