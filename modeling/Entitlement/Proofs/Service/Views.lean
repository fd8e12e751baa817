import Entitlement.Proofs.Assessment.Basic
import Entitlement.Proofs.Matching
import Entitlement.Service.Dashboard
import Mathlib.Data.List.Nodup

/-!
# The two views of eligibility

A citizen sees which schemes fit in the results, which go by the band, and on the dashboard, which
goes by the flag of the verdict. The band also accepts a score that was rounded up to 100. So the
dashboard never shows more than the results do, and the two show the same of every active scheme
that has fewer than two hundred groups.
-/

namespace Entitlement

variable {s : Service} {id : String} {p : Profile} {schemes : List Scheme} {today : Date}

/-! ### What the views list -/

theorem mem_activeSchemes {t : Scheme} :
    t ∈ activeSchemes schemes today ↔ t ∈ schemes ∧ t.isActive today = true := by
  rw [activeSchemes, List.mem_mergeSort, List.mem_filter]

/-- A stored profile has results, and they list as eligible what is in the best band. -/
theorem Service.exists_results (hp : s.profile id = .ok p) (hs : s.catalog = .ok schemes) :
    ∃ results, s.results id = .ok results ∧ ∀ schemeId,
      schemeId ∈ results.eligible.map (·.id) ↔
        ∃ t ∈ schemes, t.id = schemeId ∧
          (t.conditions.assess p s.today).verdict.band s.threshold = .eligible := by
  rw [results, hp, hs]
  exact ⟨_, rfl, fun _ => mem_matchSchemes_eligible⟩

/-- A stored profile has a dashboard, and it lists the active schemes whose verdict says so. -/
theorem Service.exists_dashboard (hp : s.profile id = .ok p) (hs : s.catalog = .ok schemes) :
    ∃ dashboard, s.dashboard id = .ok dashboard ∧ ∀ schemeId,
      schemeId ∈ dashboard.eligible.map (·.id) ↔
        ∃ t ∈ schemes, t.id = schemeId ∧ t.isActive s.today = true ∧
          (t.conditions.assess p s.today).verdict.isEligible = true := by
  rw [dashboard, hp, hs]
  refine ⟨_, rfl, fun schemeId => ?_⟩
  simp only [List.mem_map, List.mem_filter, mem_activeSchemes]
  constructor
  · rintro ⟨d, ⟨t, ⟨⟨ht, hactive⟩, heligible⟩, rfl⟩, hid⟩
    exact ⟨t, ht, hid, hactive, heligible⟩
  · rintro ⟨t, ht, hid, hactive, heligible⟩
    exact ⟨_, ⟨t, ⟨⟨ht, hactive⟩, heligible⟩, rfl⟩, hid⟩

/-- With distinct ids the scheme of an id is the only one that can put it into a view. -/
theorem exists_mem_id_eq_iff {q : Scheme → Prop} {t : Scheme} (hids : (schemes.map (·.id)).Nodup)
    (ht : t ∈ schemes) : (∃ u ∈ schemes, u.id = t.id ∧ q u) ↔ q t := by
  constructor
  · rintro ⟨u, hu, hid, hq⟩
    have hut : u = t := List.inj_on_of_nodup_map hids hu ht hid
    exact hut ▸ hq
  · exact fun hq => ⟨t, ht, rfl, hq⟩

/-! ### Where the views agree -/

/-- Both views of an active scheme come down to how many of its groups fail. -/
theorem Service.views_of_active_scheme {t : Scheme} (hp : s.profile id = .ok p)
    (hs : s.catalog = .ok schemes) (hids : (schemes.map (·.id)).Nodup) (ht : t ∈ schemes)
    (hactive : t.isActive s.today = true) :
    ∃ results dashboard, s.results id = .ok results ∧ s.dashboard id = .ok dashboard ∧
      (t.id ∈ results.eligible.map (·.id) ↔
        200 * t.conditions.failing p s.today ≤ t.conditions.length) ∧
      (t.id ∈ dashboard.eligible.map (·.id) ↔ t.conditions.failing p s.today = 0) := by
  obtain ⟨results, hresults, hlisted⟩ := exists_results hp hs
  obtain ⟨dashboard, hdashboard, hshown⟩ := exists_dashboard hp hs
  refine ⟨results, dashboard, hresults, hdashboard, ?_, ?_⟩
  · rw [hlisted, exists_mem_id_eq_iff hids ht, Ruleset.assess_band_eq_eligible_iff]
  · rw [hshown, exists_mem_id_eq_iff hids ht, and_iff_right hactive,
      Ruleset.assess_isEligible_iff_forall, Ruleset.failing_eq_zero_iff]

/-- The results list an active scheme as eligible when at most one group in two hundred fails, and
the dashboard lists it when none does. So what the dashboard lists is in the results, and with
fewer than two hundred groups both go by whether all groups pass, as the band then does. -/
theorem results_and_dashboard_on_eligibility :
    (∀ (r : Ruleset) (p : Profile) (today : Date) (threshold : Nat),
      ((r.assess p today).verdict.band threshold = .eligible ↔
        200 * r.failing p today ≤ r.length) ∧
      (r.length < 200 → ((r.assess p today).verdict.band threshold = .eligible ↔
        ∀ g ∈ r, (g.evaluate p today).passed = true))) ∧
    ∀ (s : Service) (id : String) (p : Profile) (schemes : List Scheme) (t : Scheme),
      s.profile id = .ok p → s.catalog = .ok schemes → (schemes.map (·.id)).Nodup →
      t ∈ schemes → t.isActive s.today = true →
      ∃ results dashboard, s.results id = .ok results ∧ s.dashboard id = .ok dashboard ∧
        (t.id ∈ results.eligible.map (·.id) ↔
          200 * t.conditions.failing p s.today ≤ t.conditions.length) ∧
        (t.id ∈ dashboard.eligible.map (·.id) ↔
          ∀ g ∈ t.conditions, (g.evaluate p s.today).passed = true) ∧
        (t.id ∈ dashboard.eligible.map (·.id) → t.id ∈ results.eligible.map (·.id)) ∧
        (t.conditions.length < 200 →
          (t.id ∈ results.eligible.map (·.id) ↔ t.id ∈ dashboard.eligible.map (·.id))) := by
  constructor
  · intro r p today threshold
    exact ⟨Ruleset.assess_band_eq_eligible_iff, Ruleset.assess_band_eq_eligible_iff_forall⟩
  · intro s id p schemes t hp hs hids ht hactive
    obtain ⟨results, dashboard, hresults, hdashboard, hbest, hnone⟩ :=
      Service.views_of_active_scheme hp hs hids ht hactive
    refine ⟨results, dashboard, hresults, hdashboard, hbest, ?_, ?_, ?_⟩
    · rw [hnone, Ruleset.failing_eq_zero_iff]
    -- No group fails, so that less than one in two hundred does.
    · rw [hbest, hnone]
      omega
    -- Fewer than two hundred groups leave no room for a failing one.
    · intro hfew
      rw [hbest, hnone]
      omega

theorem both_views_list_a_scheme_for_one_state :
    let p : Profile := { id := "p-1", state := some "Kerala" }
    let today : Date := ⟨2024, 6, 15, by decide, by decide, by decide⟩
    let t : Scheme :=
      { id := "s-1", name := "Merit", deadline := today, status := .published,
        conditions := [.allOf [⟨.known .state, .known .equals, .text "Kerala"⟩]] }
    let s : Service := { profiles := .ofList [p], schemes := .ofList [t], today }
    s.profile "p-1" = .ok p ∧ s.catalog = .ok [t] ∧ t.isActive today = true ∧
      ∃ results dashboard, s.results "p-1" = .ok results ∧ s.dashboard "p-1" = .ok dashboard ∧
        "s-1" ∈ results.eligible.map (·.id) ∧ "s-1" ∈ dashboard.eligible.map (·.id) := by
  intro p today t s
  have hactive : t.isActive today = true := by decide +kernel
  have hpassed : ∀ g ∈ t.conditions, (g.evaluate p today).passed = true := by decide +kernel
  obtain ⟨results, dashboard, hresults, hdashboard, _, hall, hsub, _⟩ :=
    results_and_dashboard_on_eligibility.2 s "p-1" p [t] t rfl rfl (List.nodup_singleton _)
      (List.mem_singleton_self t) hactive
  have hshown : "s-1" ∈ dashboard.eligible.map (·.id) := hall.mpr hpassed
  exact ⟨rfl, rfl, hactive, results, dashboard, hresults, hdashboard, hsub hshown, hshown⟩

/-- With two hundred groups of which one fails, the score of 99.5 is rounded up to 100. The results
then list the scheme as eligible and the dashboard does not. -/
theorem one_failing_group_in_two_hundred :
    let rule (state : String) : Group :=
      .allOf [⟨.known .state, .known .equals, .text state⟩]
    let p : Profile := { id := "p-1", state := some "Kerala" }
    let today : Date := ⟨2024, 6, 15, by decide, by decide, by decide⟩
    let t : Scheme :=
      { id := "s-1", name := "Merit", deadline := today, status := .published,
        conditions := rule "Goa" :: List.replicate 199 (rule "Kerala") }
    let s : Service := { profiles := .ofList [p], schemes := .ofList [t], today }
    s.profile "p-1" = .ok p ∧ s.catalog = .ok [t] ∧ t.isActive today = true ∧
      (∃ results dashboard, s.results "p-1" = .ok results ∧ s.dashboard "p-1" = .ok dashboard ∧
        "s-1" ∈ results.eligible.map (·.id) ∧ "s-1" ∉ dashboard.eligible.map (·.id)) ∧
      (t.conditions.assess p today).verdict.band s.threshold = .eligible ∧
      ((rule "Goa").evaluate p today).passed = false := by
  intro rule p today t s
  have hactive : t.isActive today = true := by decide +kernel
  have hgoa : ((rule "Goa").evaluate p today).passed = false := by decide +kernel
  have hkerala : ((rule "Kerala").evaluate p today).passed = true := by decide +kernel
  have hfailing : t.conditions.failing p today = 1 := by
    rw [Ruleset.failing, List.countP_cons, List.countP_replicate, hgoa, hkerala]
    rfl
  have hlength : t.conditions.length = 200 := by
    rw [List.length_cons, List.length_replicate]
  have hrounded : 200 * t.conditions.failing p today ≤ t.conditions.length :=
    Nat.le_of_eq (by rw [hfailing, hlength])
  obtain ⟨results, dashboard, hresults, hdashboard, hbest, hnone⟩ :=
    Service.views_of_active_scheme (show s.profile "p-1" = .ok p from rfl) rfl
      (List.nodup_singleton _) (List.mem_singleton_self t) hactive
  refine ⟨rfl, rfl, hactive, ⟨results, dashboard, hresults, hdashboard, hbest.mpr hrounded, ?_⟩,
    Ruleset.assess_band_eq_eligible_iff.mpr hrounded, hgoa⟩
  intro hshown
  have hzero : t.conditions.failing p today = 0 := hnone.mp hshown
  omega

end Entitlement
