import Entitlement.Proofs.Service.Publishing

/-!
# What publishing changes, and what it does not see

Publishing changes the first scheme with its id, in what it records and in nothing else. And it
does not see what was recorded before: services that agree but for that give the same answers, and
publish their schemes alike. So publishing again changes nothing more, the order of two requests
makes no difference, and results never depend on what has been published.
-/

namespace Entitlement

/-! ### Schemes without what is recorded -/

/-- The scheme without what publishing records. -/
def Scheme.unpublished (t : Scheme) : Scheme :=
  { t with status := .draft, matchedProfiles := [], totalMatches := 0 }

theorem Scheme.conditions_eq_of_unpublished {t u : Scheme} (h : t.unpublished = u.unpublished) :
    t.conditions = u.conditions := by
  have heq := congrArg Scheme.conditions h
  exact heq

/-! ### Rulesets with and without errors -/

theorem Ruleset.isEmpty_errors_iff (r : Ruleset) :
    (r.issues.filter (·.isError)).isEmpty = true ↔ r.Clean := by
  rw [List.isEmpty_iff, List.filter_eq_nil_iff]
  exact forall₂_congr fun i _ => Bool.not_eq_true i.isError ▸ Iff.rfl

theorem Publishing.afterFetch_of_clean {t : Scheme} (id : String) (h : t.conditions.Clean) :
    afterFetch id t = .fetched t (t.conditions.issues.filter (!·.isError)) :=
  if_pos (t.conditions.isEmpty_errors_iff.mpr h)

theorem Publishing.afterFetch_of_not_clean {t : Scheme} (id : String) (h : ¬ t.conditions.Clean) :
    afterFetch id t =
      .finished (.error (.invalidRuleset id (t.conditions.issues.filter (·.isError)))) :=
  if_neg fun hempty => h (t.conditions.isEmpty_errors_iff.mp hempty)

/-! ### Services without what is recorded -/

namespace Service

/-- The service without what publishing records of its schemes. -/
def unpublished (s : Service) : Service :=
  { s with schemes := { s.schemes with records := s.schemes.records.map (·.unpublished) } }

/-- The scheme as the service publishes it. -/
def published (s : Service) (t : Scheme) : Scheme :=
  t.publishedWith (t.conditions.matchProfiles (s.profiles.records.filter (·.isMatchable)) s.today)

/-- What the service answers when it publishes the scheme. -/
def outcome (s : Service) (t : Scheme) : PublishOutcome where
  schemeId := t.id
  status := .published
  evaluated := (s.profiles.records.filter (·.isMatchable)).length
  matchedProfiles := (s.published t).matchedProfiles
  totalMatches := (s.published t).totalMatches
  degraded :=
    (t.conditions.matchProfiles (s.profiles.records.filter (·.isMatchable)) s.today).degraded
  warnings := (t.conditions.issues.filter (!·.isError)).map (·.message)

/-- The service after the first scheme with the given id was published. -/
def amended (s : Service) (id : String) : Service :=
  { s with
    schemes := { s.schemes with records := SchemeStore.amend s.published id s.schemes.records } }

variable {s s' : Service} {id : String} {t u : Scheme}

theorem unpublished_published (s : Service) (t : Scheme) :
    (s.published t).unpublished = t.unpublished := rfl

theorem published_published (s : Service) (t : Scheme) :
    s.published (s.published t) = s.published t := rfl

theorem unpublished_amended (s : Service) (id : String) :
    (s.amended id).unpublished = s.unpublished := by
  rw [unpublished, amended, SchemeStore.map_amend (unpublished_published s)]
  rfl

theorem amended_comm (s : Service) (a b : String) :
    (s.amended a).amended b = (s.amended b).amended a := by
  have hrecords := SchemeStore.amend_comm (f := s.published) (fun _ => rfl) b a s.schemes.records
  exact congrArg (fun records => { s with schemes := { s.schemes with records } }) hrecords

theorem amended_amended (s : Service) (id : String) : (s.amended id).amended id = s.amended id := by
  have hrecords := SchemeStore.amend_amend (f := s.published) (fun _ => rfl)
    (published_published s) id s.schemes.records
  exact congrArg (fun records => { s with schemes := { s.schemes with records } }) hrecords

/-! ### The scheme of an id -/

theorem scheme_eq_ok_iff :
    s.scheme id = .ok t ↔
      s.schemes.outage = none ∧ s.schemes.records.find? (·.id = id) = some t := by
  rw [scheme, SchemeStore.fetch]
  cases s.schemes.outage with
  | some e => simp [unlessOut]
  | none => cases s.schemes.records.find? (·.id = id) <;> simp [unlessOut]

theorem scheme_unpublished (s : Service) (id : String) :
    s.unpublished.scheme id = (s.scheme id).map Scheme.unpublished := by
  have hfind : (s.schemes.records.map (·.unpublished)).find? (·.id = id) =
      (s.schemes.records.find? (·.id = id)).map (·.unpublished) := List.find?_map ..
  rw [scheme, scheme, SchemeStore.fetch, SchemeStore.fetch, unpublished, hfind]
  cases s.schemes.outage with
  | some e => rfl
  | none => cases s.schemes.records.find? (·.id = id) <;> rfl

/-! ### Services that agree but for what is recorded -/

section

variable (h : s'.unpublished = s.unpublished)

include h

theorem profiles_eq_of_unpublished : s'.profiles = s.profiles := by
  have heq := congrArg Service.profiles h
  exact heq

theorem today_eq_of_unpublished : s'.today = s.today := by
  have heq := congrArg Service.today h
  exact heq

theorem published_eq_of_unpublished (htu : t.unpublished = u.unpublished) :
    s'.published t = s.published u := by
  have hblank (t : Scheme) : s'.published t = s'.published t.unpublished := rfl
  rw [hblank t, htu, ← hblank u, published, published, profiles_eq_of_unpublished h,
    today_eq_of_unpublished h]

theorem map_scheme_of_unpublished (id : String) :
    (s'.scheme id).map Scheme.unpublished = (s.scheme id).map Scheme.unpublished := by
  rw [← scheme_unpublished, ← scheme_unpublished, h]

theorem scheme_error_of_unpublished {e : ServiceError} (hs : s.scheme id = .error e) :
    s'.scheme id = .error e := by
  have heq := map_scheme_of_unpublished h id
  rw [hs] at heq
  cases hs' : s'.scheme id with
  | error e' => rw [hs'] at heq; exact heq
  | ok t => rw [hs'] at heq; cases heq

theorem exists_scheme_of_unpublished (hs : s.scheme id = .ok t) :
    ∃ t', s'.scheme id = .ok t' ∧ t'.unpublished = t.unpublished := by
  have heq := map_scheme_of_unpublished h id
  rw [hs] at heq
  cases hs' : s'.scheme id with
  | error e' => rw [hs'] at heq; cases heq
  | ok t' => rw [hs'] at heq; exact ⟨t', rfl, Except.ok.inj heq⟩

theorem outcome_eq_of_unpublished (htu : t.unpublished = u.unpublished) :
    s'.outcome t = s.outcome u := by
  have hblank (t : Scheme) : s'.outcome t = s'.outcome t.unpublished := rfl
  rw [hblank t, htu, ← hblank u, outcome, outcome, published, published,
    profiles_eq_of_unpublished h, today_eq_of_unpublished h]

end

/-! ### What becomes of a request -/

/-- The scheme can be put back because it is still there. -/
theorem update_published (hs : s.scheme id = .ok t) :
    s.schemes.update (s.published t) = .ok (s.amended id).schemes := by
  obtain ⟨hout, hfind⟩ := scheme_eq_ok_iff.mp hs
  have hid : t.id = id := by simpa using List.find?_some hfind
  have hreplaced := SchemeStore.replace?_eq_amend (f := s.published) hfind hid
  rw [SchemeStore.update, hout, hreplaced]
  simp [unlessOut, amended, hout]

theorem publish_of_error {e : ServiceError} (hs : s.scheme id = .error e) :
    s.publish id = (.error e, s) := by
  rw [publish, Publishing.run]
  simp only [Publishing.step, hs]
  rw [Publishing.run]

theorem publish_of_scheme (hs : s.scheme id = .ok t) :
    s.publish id = (Publishing.afterFetch id t).run s := by
  rw [publish, Publishing.run]
  simp only [Publishing.step, hs]

theorem publish_of_not_clean (hs : s.scheme id = .ok t) (hclean : ¬ t.conditions.Clean) :
    s.publish id =
      (.error (.invalidRuleset id (t.conditions.issues.filter (·.isError))), s) := by
  rw [publish_of_scheme hs, Publishing.afterFetch_of_not_clean id hclean, Publishing.run]

theorem publish_of_outage {e : StoreError} (hs : s.scheme id = .ok t)
    (hclean : t.conditions.Clean) (hout : s.profiles.outage = some e) :
    s.publish id = (.error (.store e), s) := by
  rw [publish_of_scheme hs, Publishing.afterFetch_of_clean id hclean, Publishing.run]
  simp only [Publishing.step, ProfileStore.all, hout, unlessOut]
  rw [Publishing.run]

theorem publish_of_clean (hs : s.scheme id = .ok t) (hclean : t.conditions.Clean)
    (hout : s.profiles.outage = none) : s.publish id = (.ok (s.outcome t), s.amended id) := by
  have hlisting : Publishing.afterListing t (t.conditions.issues.filter (!·.isError))
      s.profiles.records s.today = .matched (s.published t) (s.outcome t) := rfl
  rw [publish_of_scheme hs, Publishing.afterFetch_of_clean id hclean, Publishing.run]
  simp only [Publishing.step, ProfileStore.all, hout, unlessOut, hlisting]
  rw [Publishing.run]
  simp only [Publishing.step, update_published hs]
  rw [Publishing.run]
  rfl

/-- A request is refused, or the first scheme with its id is published. -/
theorem publish_cases (s : Service) (id : String) :
    (∃ e, s.scheme id = .error e ∧ s.publish id = (.error e, s)) ∨
    (∃ t, s.scheme id = .ok t ∧ ¬ t.conditions.Clean ∧
      s.publish id =
        (.error (.invalidRuleset id (t.conditions.issues.filter (·.isError))), s)) ∨
    (∃ t e, s.scheme id = .ok t ∧ t.conditions.Clean ∧ s.profiles.outage = some e ∧
      s.publish id = (.error (.store e), s)) ∨
    ∃ t, s.scheme id = .ok t ∧ t.conditions.Clean ∧ s.profiles.outage = none ∧
      s.publish id = (.ok (s.outcome t), s.amended id) := by
  cases hs : s.scheme id with
  | error e => exact Or.inl ⟨e, rfl, publish_of_error hs⟩
  | ok t =>
    by_cases hclean : t.conditions.Clean
    · cases hout : s.profiles.outage with
      | some e =>
        exact Or.inr (Or.inr (Or.inl ⟨t, e, rfl, hclean, rfl, publish_of_outage hs hclean hout⟩))
      | none =>
        exact Or.inr (Or.inr (Or.inr ⟨t, rfl, hclean, rfl, publish_of_clean hs hclean hout⟩))
    · exact Or.inr (Or.inl ⟨t, rfl, hclean, publish_of_not_clean hs hclean⟩)

/-- A service answers as any other does that agrees with it but for what is recorded, and publishes
the scheme in its own store. -/
theorem publish_eq_of_unpublished (h : s'.unpublished = s.unpublished) (id : String) :
    s'.publish id =
      ((s.publish id).1, if (s.publish id).1.isOk then s'.amended id else s') := by
  have hprofiles := profiles_eq_of_unpublished h
  obtain ⟨e, hs, hp⟩ | ⟨t, hs, hclean, hp⟩ | ⟨t, e, hs, hclean, hout, hp⟩ |
    ⟨t, hs, hclean, hout, hp⟩ := publish_cases s id
  · rw [hp, publish_of_error (scheme_error_of_unpublished h hs)]
    rfl
  all_goals
    obtain ⟨t', hs', ht'⟩ := exists_scheme_of_unpublished h hs
    have hconditions := Scheme.conditions_eq_of_unpublished ht'
    rw [← hconditions] at hclean
  · rw [hp, publish_of_not_clean hs' hclean, hconditions]
    rfl
  · rw [hp, publish_of_outage hs' hclean (hprofiles ▸ hout)]
    rfl
  · rw [hp, publish_of_clean hs' hclean (hprofiles ▸ hout), outcome_eq_of_unpublished h ht']
    rfl

/-! ### Several requests -/

theorem publish_fst_of_unpublished (h : s'.unpublished = s.unpublished) (id : String) :
    (s'.publish id).1 = (s.publish id).1 := by
  rw [publish_eq_of_unpublished h]

theorem publish_snd (s : Service) (id : String) :
    (s.publish id).2 = if (s.publish id).1.isOk then s.amended id else s :=
  congrArg Prod.snd (publish_eq_of_unpublished rfl id)

theorem unpublished_publish (s : Service) (id : String) :
    (s.publish id).2.unpublished = s.unpublished := by
  rw [publish_snd]
  split_ifs
  · exact unpublished_amended s id
  · rfl

theorem publish_publish (s : Service) (id : String) :
    (s.publish id).2.publish id = s.publish id := by
  rw [publish_eq_of_unpublished (unpublished_publish s id)]
  refine Prod.ext rfl ?_
  rw [publish_snd]
  split_ifs
  · exact amended_amended s id
  · rfl

theorem publish_comm (s : Service) (a b : String) :
    ((s.publish a).2.publish b).2 = ((s.publish b).2.publish a).2 := by
  rw [publish_eq_of_unpublished (unpublished_publish s a),
    publish_eq_of_unpublished (unpublished_publish s b), publish_snd s a, publish_snd s b]
  split_ifs
  · exact amended_comm s a b
  all_goals rfl

/-- Publishes schemes one after the other. -/
def publishAll (s : Service) (ids : List String) : Service :=
  ids.foldl (fun s id => (s.publish id).2) s

theorem unpublished_publishAll (s : Service) (ids : List String) :
    (s.publishAll ids).unpublished = s.unpublished := by
  induction ids generalizing s with
  | nil => rfl
  | cons id ids ih => exact (ih (s.publish id).2).trans (unpublished_publish s id)

/-! ### Views that do not see what is recorded -/

theorem matchSchemes_unpublished (p : Profile) (schemes : List Scheme) (today : Date)
    (threshold : Nat) :
    p.matchSchemes (schemes.map (·.unpublished)) today threshold =
      p.matchSchemes schemes today threshold := by
  rw [Profile.matchSchemes, Profile.matchSchemes, List.map_map]
  rfl

theorem results_unpublished (s : Service) (profileId : String) :
    s.unpublished.results profileId = s.results profileId := by
  have hcatalog : s.unpublished.catalog = s.catalog.map (List.map (·.unpublished)) := by
    rw [catalog, catalog, SchemeStore.all, SchemeStore.all, unpublished]
    cases s.schemes.outage <;> rfl
  have hprofile : s.unpublished.profile profileId = s.profile profileId := rfl
  rw [results, results, hprofile, hcatalog]
  cases s.profile profileId with
  | error e => rfl
  | ok p =>
    cases s.catalog with
    | error e => rfl
    | ok schemes => exact congrArg Except.ok (matchSchemes_unpublished p schemes _ _)

theorem results_eq_of_unpublished (h : s'.unpublished = s.unpublished) (profileId : String) :
    s'.results profileId = s.results profileId := by
  rw [← results_unpublished s', h, results_unpublished]

theorem check_eq_of_unpublished (h : s'.unpublished = s.unpublished) (p : Profile) (r : Ruleset) :
    s'.check p r = s.check p r := by
  have hthreshold := congrArg Service.threshold h
  rw [check, check, today_eq_of_unpublished h, show s'.threshold = s.threshold from hthreshold]

/-! ### Refusals and effects -/

/-- A refused request leaves everything as it was. While both stores work it is refused only for an
id that no scheme has, or for errors in the ruleset of the first scheme that has it. -/
theorem publish_error {e : ServiceError} (he : (s.publish id).1 = .error e) :
    (s.publish id).2 = s ∧
      (s.profiles.outage = none → s.schemes.outage = none →
        (e = .schemeNotFound id ∧ ∀ t ∈ s.schemes.records, t.id ≠ id) ∨
        ∃ t, s.schemes.records.find? (·.id = id) = some t ∧
          t.conditions.issues.filter (·.isError) ≠ [] ∧
          e = .invalidRuleset id (t.conditions.issues.filter (·.isError))) := by
  obtain ⟨e', hs, hp⟩ | ⟨t, hs, hclean, hp⟩ | ⟨t, e', hs, hclean, hout, hp⟩ |
    ⟨t, hs, hclean, hout, hp⟩ := publish_cases s id <;> rw [hp] at he ⊢ <;> cases he
  · refine ⟨rfl, fun _ hschemes => Or.inl ?_⟩
    rw [scheme, SchemeStore.fetch, hschemes] at hs
    cases hfind : s.schemes.records.find? (·.id = id) with
    | none =>
      rw [hfind] at hs
      cases hs
      exact ⟨rfl, fun t ht => by simpa using List.find?_eq_none.mp hfind t ht⟩
    | some t => rw [hfind] at hs; cases hs
  · refine ⟨rfl, fun _ _ => Or.inr ⟨t, (scheme_eq_ok_iff.mp hs).2, ?_, rfl⟩⟩
    rwa [← Ruleset.isEmpty_errors_iff, List.isEmpty_iff] at hclean
  · exact ⟨rfl, fun hprofiles => by rw [hout] at hprofiles; cases hprofiles⟩

/-- A request that succeeds changes what is recorded of the first scheme with its id. -/
theorem publish_ok {o : PublishOutcome} (ho : (s.publish id).1 = .ok o) :
    ∃ before t after, s.schemes.records = before ++ t :: after ∧ t.id = id ∧
      (∀ u ∈ before, u.id ≠ id) ∧
      (s.publish id).2 = { s with schemes := { s.schemes with records :=
        before ++ { t with
          status := .published
          matchedProfiles := o.matchedProfiles
          totalMatches := o.totalMatches } :: after } } := by
  obtain ⟨e, hs, hp⟩ | ⟨t, hs, hclean, hp⟩ | ⟨t, e, hs, hclean, hout, hp⟩ |
    ⟨t, hs, hclean, hout, hp⟩ := publish_cases s id <;> rw [hp] at ho ⊢ <;> cases ho
  obtain ⟨before, after, hrecords, hid, hbefore, hamend⟩ :=
    SchemeStore.exists_append_of_find? (f := s.published) (scheme_eq_ok_iff.mp hs).2
  refine ⟨before, t, after, hrecords, hid, hbefore, ?_⟩
  rw [amended, hamend]
  rfl

/-- Publishing is atomic and local: it changes nothing when it is refused, and else the first scheme
with the id in what is recorded of it. Publishing again changes nothing more and is answered alike,
two requests may come in either order, and no requests change the results or a check. -/
theorem publishing_is_local_and_order_free (s : Service) (id : String) :
    (∀ e, (s.publish id).1 = .error e →
      (s.publish id).2 = s ∧
        (s.profiles.outage = none → s.schemes.outage = none →
          (e = .schemeNotFound id ∧ ∀ t ∈ s.schemes.records, t.id ≠ id) ∨
          ∃ t, s.schemes.records.find? (·.id = id) = some t ∧
            t.conditions.issues.filter (·.isError) ≠ [] ∧
            e = .invalidRuleset id (t.conditions.issues.filter (·.isError)))) ∧
    (∀ o, (s.publish id).1 = .ok o →
      ∃ before t after, s.schemes.records = before ++ t :: after ∧ t.id = id ∧
        (∀ u ∈ before, u.id ≠ id) ∧
        (s.publish id).2 = { s with schemes := { s.schemes with records :=
          before ++ { t with
            status := .published
            matchedProfiles := o.matchedProfiles
            totalMatches := o.totalMatches } :: after } }) ∧
    (s.publish id).2.publish id = s.publish id ∧
    (∀ other,
      ((s.publish id).2.publish other).2 = ((s.publish other).2.publish id).2 ∧
        ((s.publish id).2.publish other).1 = (s.publish other).1 ∧
        ((s.publish other).2.publish id).1 = (s.publish id).1) ∧
    ∀ ids, (∀ profileId, (s.publishAll ids).results profileId = s.results profileId) ∧
      ∀ p r, (s.publishAll ids).check p r = s.check p r := by
  have hanswer (a b : String) : ((s.publish a).2.publish b).1 = (s.publish b).1 :=
    publish_fst_of_unpublished (unpublished_publish s a) b
  refine ⟨fun e => publish_error, fun o => publish_ok, publish_publish s id, ?_, ?_⟩
  · exact fun other => ⟨publish_comm s id other, hanswer id other, hanswer other id⟩
  · intro ids
    have hsame := unpublished_publishAll s ids
    exact ⟨results_eq_of_unpublished hsame, check_eq_of_unpublished hsame⟩

/-- Of two schemes with one id the first is published, and an id that none has changes nothing. -/
theorem publishing_one_of_two_schemes :
    let today : Date := ⟨2024, 6, 15, by decide, by decide, by decide⟩
    let p : Profile := { id := "p-1", state := some "Kerala" }
    let t : Scheme :=
      { id := "s-1", name := "Merit", deadline := today,
        conditions := [.allOf [⟨.known .state, .known .equals, .text "Kerala"⟩]] }
    let s : Service := { profiles := .ofList [p], schemes := .ofList [t, t], today }
    (∃ o, (s.publish "s-1").1 = .ok o ∧ o.matchedProfiles = ["p-1"] ∧
      ∃ before u after, s.schemes.records = before ++ u :: after ∧ u.id = "s-1" ∧
        (∀ v ∈ before, v.id ≠ "s-1") ∧
        (s.publish "s-1").2.schemes.records =
          before ++ { u with
            status := .published
            matchedProfiles := o.matchedProfiles
            totalMatches := o.totalMatches } :: after) ∧
      (s.publish "s-9").1 = .error (.schemeNotFound "s-9") ∧ (s.publish "s-9").2 = s := by
  intro today p t s
  have hclean : t.conditions.Clean := by
    rw [Ruleset.Clean]
    decide +kernel
  have hpublished : (s.publish "s-1").1 = .ok (s.outcome t) := by
    rw [publish_of_clean rfl hclean rfl]
  have hrefused : (s.publish "s-9").1 = .error (.schemeNotFound "s-9") := by
    rw [publish_of_error rfl]
  obtain ⟨before, u, after, hrecords, hid, hbefore, hlast⟩ :=
    (publishing_is_local_and_order_free s "s-1").2.1 _ hpublished
  have hmatched : (s.outcome t).matchedProfiles = ["p-1"] := by decide +kernel
  refine ⟨⟨s.outcome t, hpublished, hmatched, before, u, after, hrecords, hid, hbefore, ?_⟩,
    hrefused, ((publishing_is_local_and_order_free s "s-9").1 _ hrefused).1⟩
  rw [hlast]

end Service

end Entitlement
