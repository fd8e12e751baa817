import Entitlement.Proofs.Service.Recorded

/-!
# Seeded stores

Both stores are seeded from lists in which an id may occur again, and they settle that in opposite
ways. The profile store keeps the last profile of each id and lists them by id, so that only the
order among profiles of one id matters. The scheme store keeps all schemes in their places and
works on the first one of an id, where an update puts its scheme. Each store finds by an id what it
lists under it.
-/

namespace Entitlement

/-! ### Profiles -/

namespace ProfileStore

variable {p : Profile} {profiles shuffled records : List Profile} {id : String}

/-- Holds of a store that keeps, for each id, the last one of the given profiles that has it, and
finds what it lists. -/
structure Keeps (s : ProfileStore) (profiles listed : List Profile) : Prop where
  all : s.all = .ok listed
  ascending : listed.Pairwise fun p q => Text.bytes p.id < Text.bytes q.id
  ids : ∀ id, id ∈ listed.map (·.id) ↔ id ∈ profiles.map (·.id)
  last : ∀ p, p ∈ listed ↔
    ∃ before after, profiles = before ++ p :: after ∧ ∀ q ∈ after, q.id ≠ p.id
  fetch_listed : ∀ p ∈ listed, s.fetch p.id = .ok (some p)
  fetch_other : ∀ id, (∀ p ∈ listed, p.id ≠ id) → s.fetch id = .ok none

theorem find?_insert (p : Profile) (id : String) : ∀ records : List Profile,
    (insert p records).find? (·.id = id) =
      if p.id = id then some p else records.find? (·.id = id)
  | [] => by by_cases hp : p.id = id <;> simp [insert, hp]
  | q :: rest => by
    have ih := find?_insert p id rest
    rw [insert]
    by_cases hp : p.id = id
    · rw [if_pos hp] at ih ⊢
      split_ifs with hlt heq
      · simp [hp]
      · simp [hp]
      · have hq : q.id ≠ id := fun hq => heq (hp.trans hq.symm)
        simpa [hq] using ih
    · rw [if_neg hp] at ih ⊢
      split_ifs with hlt heq
      · simp [hp]
      · have hq : q.id ≠ id := fun hq => hp (heq.trans hq)
        simp [hp, hq]
      · rw [List.find?_cons, List.find?_cons, ih]

/-- The last profile with an id is the one that stays. -/
theorem find?_foldl_insert (id : String) : ∀ profiles records : List Profile,
    (profiles.foldl (fun records p => insert p records) records).find? (·.id = id) =
      (profiles.reverse.find? (·.id = id)).or (records.find? (·.id = id))
  | [], records => by simp
  | p :: profiles, records => by
    rw [List.foldl_cons, find?_foldl_insert id profiles, find?_insert, List.reverse_cons,
      List.find?_append, Option.or_assoc]
    by_cases hp : p.id = id <;> simp [hp]

theorem find?_ofList (profiles : List Profile) (id : String) :
    (ofList profiles).records.find? (·.id = id) = profiles.reverse.find? (·.id = id) := by
  rw [ofList, find?_foldl_insert, List.find?_nil, Option.or_none]

theorem Ascending.mem_iff_find? (h : Ascending records) :
    p ∈ records ↔ records.find? (·.id = p.id) = some p :=
  ⟨h.find?_id, List.mem_of_find?_eq_some⟩

/-- Profiles that ascend are known by what is found under each id. -/
theorem Ascending.eq_of_find?_eq {more : List Profile} (h : Ascending records)
    (hmore : Ascending more)
    (hfind : ∀ id, records.find? (·.id = id) = more.find? (·.id = id)) : records = more := by
  have hperm : records.Perm more := by
    rw [List.perm_ext_iff_of_nodup h.nodup_ids.of_map hmore.nodup_ids.of_map]
    intro p
    rw [h.mem_iff_find?, hmore.mem_iff_find?, hfind]
  refine hperm.eq_of_pairwise (fun p q hp hq hpq hqp => ?_) h hmore
  exact absurd hqp (String.lt_asymm hpq)

/-- Only the order among profiles of one id matters. -/
theorem ofList_eq_of_filter_eq
    (h : ∀ id, shuffled.filter (·.id = id) = profiles.filter (·.id = id)) :
    ofList shuffled = ofList profiles := by
  have hrecords : (ofList shuffled).records = (ofList profiles).records := by
    refine (ofList_ascending shuffled).eq_of_find?_eq (ofList_ascending profiles) fun id => ?_
    rw [find?_ofList, find?_ofList, ← List.head?_filter, ← List.head?_filter, List.filter_reverse,
      List.filter_reverse, h]
  exact congrArg (fun records => ({ records } : ProfileStore)) hrecords

theorem find?_reverse_eq_some_iff :
    profiles.reverse.find? (·.id = p.id) = some p ↔
      ∃ before after, profiles = before ++ p :: after ∧ ∀ q ∈ after, q.id ≠ p.id := by
  rw [List.find?_eq_some_iff_append]
  constructor
  · rintro ⟨-, after, before, hprofiles, hafter⟩
    refine ⟨before.reverse, after.reverse, ?_, fun q hq => ?_⟩
    · rw [← List.reverse_reverse profiles, hprofiles]
      simp
    · simpa using hafter q (List.mem_reverse.mp hq)
  · rintro ⟨before, after, rfl, hafter⟩
    refine ⟨by simp, after.reverse, before.reverse, by simp, fun q hq => ?_⟩
    simpa using hafter q (List.mem_reverse.mp hq)

theorem ofList_keeps (profiles : List Profile) :
    (ofList profiles).Keeps profiles (ofList profiles).records := by
  have hascending := ofList_ascending profiles
  refine ⟨rfl, hascending.imp Text.bytes_lt_iff.mpr, fun id => ?_, fun p => ?_, fun p hp => ?_,
    fun id hid => ?_⟩
  · have hfound : (ofList profiles).records.find? (·.id = id) =
        profiles.reverse.find? (·.id = id) := find?_ofList profiles id
    have hsome := congrArg Option.isSome hfound
    rw [Bool.eq_iff_iff, List.find?_isSome, List.find?_isSome] at hsome
    simpa using hsome
  · rw [hascending.mem_iff_find?, find?_ofList, find?_reverse_eq_some_iff]
  · rw [fetch, hascending.find?_id hp]
    rfl
  · rw [fetch, List.find?_eq_none.mpr (by simpa using hid)]
    rfl

end ProfileStore

namespace Service

variable {s : Service} {profiles : List Profile} {id : String}

theorem exists_profile (hprofiles : s.profiles = .ofList profiles)
    (hid : id ∈ profiles.map (·.id)) : ∃ p, s.profile id = .ok p := by
  have hkeeps := ProfileStore.ofList_keeps profiles
  obtain ⟨p, hp, rfl⟩ := List.mem_map.mp ((hkeeps.ids id).mpr hid)
  exact ⟨p, by rw [profile, hprofiles, hkeeps.fetch_listed p hp]⟩

theorem profile_not_found (hprofiles : s.profiles = .ofList profiles)
    (hid : id ∉ profiles.map (·.id)) : s.profile id = .error (.profileNotFound id) := by
  have hkeeps := ProfileStore.ofList_keeps profiles
  have hother : ∀ p ∈ (ProfileStore.ofList profiles).records, p.id ≠ id := by
    rintro p hp rfl
    exact hid ((hkeeps.ids p.id).mp (List.mem_map_of_mem hp))
  rw [profile, hprofiles, hkeeps.fetch_other id hother]

/-- Whoever is in the list has both views, and nobody else has. -/
theorem views_of_seeded (hprofiles : s.profiles = .ofList profiles)
    (hout : s.schemes.outage = none) (id : String) :
    (id ∈ profiles.map (·.id) →
      (∃ results, s.results id = .ok results) ∧ ∃ dashboard, s.dashboard id = .ok dashboard) ∧
    (id ∉ profiles.map (·.id) →
      s.results id = .error (.profileNotFound id) ∧
        s.dashboard id = .error (.profileNotFound id)) := by
  have hcatalog := catalog_of_no_outage hout
  constructor
  · intro hid
    obtain ⟨p, hp⟩ := exists_profile hprofiles hid
    obtain ⟨results, hresults, -⟩ := exists_results hp hcatalog
    obtain ⟨dashboard, hdashboard, -⟩ := exists_dashboard hp hcatalog
    exact ⟨⟨results, hresults⟩, dashboard, hdashboard⟩
  · intro hid
    rw [results, dashboard, profile_not_found hprofiles hid]
    exact ⟨rfl, rfl⟩

end Service

/-! ### Schemes -/

namespace SchemeStore

variable {s : SchemeStore} {scheme t : Scheme} {records replaced : List Scheme} {id : String}

/-- Answers an update. The store stays as it was when the update fails. -/
def put (s : SchemeStore) (scheme : Scheme) : Except StoreError Unit × SchemeStore :=
  match s.update scheme with
  | .ok updated => (.ok (), updated)
  | .error e => (.error e, s)

/-- The store after updates, one after the other. -/
def putAll (s : SchemeStore) (updates : List Scheme) : SchemeStore :=
  updates.foldl (fun s scheme => (s.put scheme).2) s

/-- Holds of a store that keeps the given schemes in their places, each id at its first scheme with
what was put there last, and finds what it lists first. -/
structure Keeps (s : SchemeStore) (schemes updates listed : List Scheme) : Prop where
  all : s.all = .ok listed
  ids : listed.map (·.id) = schemes.map (·.id)
  fetch_first : ∀ id t, s.fetch id = .ok (some t) ↔
    ∃ before after, listed = before ++ t :: after ∧ t.id = id ∧ ∀ u ∈ before, u.id ≠ id
  fetch_other : ∀ id, s.fetch id = .ok none ↔ id ∉ schemes.map (·.id)
  latest : ∀ id, s.fetch id = .ok ((schemes.find? (·.id = id)).map fun t =>
    (updates.reverse.find? (·.id = id)).getD t)
  put_known : ∀ scheme, scheme.id ∈ schemes.map (·.id) →
    ∃ before t after, listed = before ++ t :: after ∧ t.id = scheme.id ∧
      (∀ u ∈ before, u.id ≠ scheme.id) ∧
      s.put scheme = (.ok (), { s with records := before ++ scheme :: after })
  put_unknown : ∀ scheme, scheme.id ∉ schemes.map (·.id) → s.put scheme = (.error .notFound, s)

theorem replace?_eq_none_iff : ∀ {records : List Scheme},
    replace? scheme records = none ↔ scheme.id ∉ records.map (·.id)
  | [] => by simp [replace?]
  | t :: rest => by
    by_cases ht : t.id = scheme.id
    · simp [replace?, ht]
    · simp [replace?, ht, replace?_eq_none_iff, Ne.symm ht]

/-- A scheme is put in the place of the first one that has its id. -/
theorem exists_append_of_replace? : ∀ {records replaced : List Scheme},
    replace? scheme records = some replaced →
      ∃ before t after, records = before ++ t :: after ∧ t.id = scheme.id ∧
        (∀ u ∈ before, u.id ≠ scheme.id) ∧ replaced = before ++ scheme :: after
  | [], _, h => by cases h
  | t :: rest, replaced, h => by
    rw [replace?] at h
    split_ifs at h with ht
    · cases h
      exact ⟨[], t, rest, rfl, ht, by simp, rfl⟩
    · obtain ⟨tail, htail, rfl⟩ := Option.map_eq_some_iff.mp h
      obtain ⟨before, u, after, rfl, hu, hbefore, rfl⟩ := exists_append_of_replace? htail
      exact ⟨t :: before, u, after, rfl, hu, List.forall_mem_cons.mpr ⟨ht, hbefore⟩, rfl⟩

/-- What an update does: it fails for an id that no scheme has, and else it changes the first scheme
that has the id. -/
theorem put_cases (hout : s.outage = none) (scheme : Scheme) :
    (scheme.id ∉ s.records.map (·.id) ∧ s.put scheme = (.error .notFound, s)) ∨
    ∃ before t after, s.records = before ++ t :: after ∧ t.id = scheme.id ∧
      (∀ u ∈ before, u.id ≠ scheme.id) ∧
      s.put scheme = (.ok (), { s with records := before ++ scheme :: after }) := by
  cases hreplaced : replace? scheme s.records with
  | none =>
    refine Or.inl ⟨replace?_eq_none_iff.mp hreplaced, ?_⟩
    simp only [put, update, hout, unlessOut, hreplaced]
  | some replaced =>
    obtain ⟨before, t, after, hrecords, ht, hbefore, rfl⟩ := exists_append_of_replace? hreplaced
    refine Or.inr ⟨before, t, after, hrecords, ht, hbefore, ?_⟩
    simp only [put, update, hout, unlessOut, hreplaced]

/-- What an update leaves in the store: each id in its place, and at its first scheme what was put
there. -/
theorem put_spec (hout : s.outage = none) (scheme : Scheme) :
    (s.put scheme).2.outage = none ∧
    (s.put scheme).2.records.map (·.id) = s.records.map (·.id) ∧
    ∀ id, (s.put scheme).2.records.find? (·.id = id) =
      (s.records.find? (·.id = id)).map fun t => if scheme.id = id then scheme else t := by
  obtain ⟨hunknown, hput⟩ | ⟨before, t, after, hrecords, ht, hbefore, hput⟩ := put_cases hout scheme
  · rw [hput]
    refine ⟨hout, rfl, fun id => ?_⟩
    cases hfind : s.records.find? (·.id = id) with
    | none => rfl
    | some t =>
      have hid : t.id = id := by simpa using List.find?_some hfind
      have hne : scheme.id ≠ id := fun heq => hunknown (heq.trans hid.symm ▸
        List.mem_map_of_mem (List.mem_of_find?_eq_some hfind))
      rw [Option.map_some, if_neg hne]
  · rw [hput]
    refine ⟨hout, by rw [hrecords]; simp [ht], fun id => ?_⟩
    rw [hrecords, List.find?_append, List.find?_append]
    by_cases hid : scheme.id = id
    · have hnone : before.find? (·.id = id) = none :=
        List.find?_eq_none.mpr (by simpa [← hid] using hbefore)
      simp [hnone, hid, ht]
    · simp [hid, ht]

/-- So each id stays in its place, and its first scheme is the one that was put there last. -/
theorem putAll_spec (updates : List Scheme) : ∀ {s : SchemeStore}, s.outage = none →
    (s.putAll updates).outage = none ∧
    (s.putAll updates).records.map (·.id) = s.records.map (·.id) ∧
    ∀ id, (s.putAll updates).records.find? (·.id = id) =
      (s.records.find? (·.id = id)).map fun t => (updates.reverse.find? (·.id = id)).getD t := by
  induction updates with
  | nil => exact fun hout => ⟨hout, rfl, fun id => by simp [putAll]⟩
  | cons scheme updates ih =>
    intro s hout
    obtain ⟨hout', hids, hfind⟩ := put_spec hout scheme
    obtain ⟨hlast, hidsAll, hfindAll⟩ := ih hout'
    refine ⟨hlast, hidsAll.trans hids, fun id => (hfindAll id).trans ?_⟩
    rw [hfind, Option.map_map, List.reverse_cons, List.find?_append]
    congr 1
    funext t
    by_cases hid : scheme.id = id <;> cases updates.reverse.find? (·.id = id) <;> simp [hid]

theorem putAll_keeps (schemes updates : List Scheme) :
    ((ofList schemes).putAll updates).Keeps schemes updates
      ((ofList schemes).putAll updates).records := by
  obtain ⟨hout, hids, hfind⟩ := putAll_spec updates (s := ofList schemes) rfl
  generalize (ofList schemes).putAll updates = s at hout hids hfind
  have hids : s.records.map (·.id) = schemes.map (·.id) := hids
  have hfetch (id : String) : s.fetch id = .ok (s.records.find? (·.id = id)) := by
    rw [fetch, hout, unlessOut]
  refine ⟨by rw [all, hout, unlessOut], hids, fun id t => ?_, fun id => ?_, fun id => ?_,
    fun scheme hknown => ?_, fun scheme hunknown => ?_⟩
  · rw [hfetch, Except.ok.injEq, List.find?_eq_some_iff_append]
    simp only [decide_eq_true_eq, Bool.not_eq_true', decide_eq_false_iff_not]
    constructor
    · rintro ⟨hid, before, after, hrecords, hbefore⟩
      exact ⟨before, after, hrecords, hid, hbefore⟩
    · rintro ⟨before, after, hrecords, hid, hbefore⟩
      exact ⟨hid, before, after, hrecords, hbefore⟩
  · rw [hfetch, Except.ok.injEq, List.find?_eq_none, ← hids]
    simp
  · rw [hfetch, hfind]
    rfl
  · rcases put_cases hout scheme with ⟨hunknown, -⟩ | hput
    · exact absurd (hids ▸ hknown) hunknown
    · exact hput
  · rcases put_cases hout scheme with ⟨-, hput⟩ | ⟨before, t, after, hrecords, ht, -⟩
    · exact hput
    · refine absurd ?_ hunknown
      rw [← hids, hrecords, ← ht]
      simp

end SchemeStore

/-! ### Both stores -/

/-- A profile store has the last profile of each id and lists them by id. Both views of a profile
are there for the ids of the list, and no order counts but that among profiles of one id. A scheme
store keeps the places of the ids through any updates, and has at the first place of an id what was
put there last; an update of another id is refused and changes nothing. -/
theorem seeded_stores_keep_what_they_were_given :
    (∀ profiles : List Profile,
      (∃ listed, (ProfileStore.ofList profiles).Keeps profiles listed) ∧
      (∀ s : Service, s.profiles = .ofList profiles → s.schemes.outage = none → ∀ id,
        (id ∈ profiles.map (·.id) →
          (∃ results, s.results id = .ok results) ∧
            ∃ dashboard, s.dashboard id = .ok dashboard) ∧
        (id ∉ profiles.map (·.id) →
          s.results id = .error (.profileNotFound id) ∧
            s.dashboard id = .error (.profileNotFound id))) ∧
      ∀ shuffled : List Profile,
        (∀ id, shuffled.filter (·.id = id) = profiles.filter (·.id = id)) →
          ProfileStore.ofList shuffled = .ofList profiles) ∧
    ∀ schemes updates : List Scheme,
      ∃ listed, ((SchemeStore.ofList schemes).putAll updates).Keeps schemes updates listed := by
  refine ⟨fun profiles => ⟨⟨_, ProfileStore.ofList_keeps profiles⟩, ?_, ?_⟩, fun schemes updates =>
    ⟨_, SchemeStore.putAll_keeps schemes updates⟩⟩
  · exact fun s hprofiles hout id => Service.views_of_seeded hprofiles hout id
  · exact fun shuffled h => ProfileStore.ofList_eq_of_filter_eq h

/-- Two profiles with one id and two schemes with one id: the last profile counts and the first
scheme. -/
theorem stores_seeded_with_repeated_ids :
    let today : Date := ⟨2024, 6, 15, by decide, by decide, by decide⟩
    let early : Profile := { id := "p-2", state := some "Goa" }
    let late : Profile := { id := "p-2", state := some "Kerala" }
    let other : Profile := { id := "p-1" }
    let s : Service :=
      { profiles := .ofList [early, late, other], schemes := .ofList [], today }
    let scheme (id name : String) : Scheme := { id, name, deadline := today }
    let store := (SchemeStore.ofList [scheme "s-1" "A", scheme "s-1" "B"]).putAll [scheme "s-1" "C"]
    s.profiles.fetch "p-2" = .ok (some late) ∧
      (∃ results, s.results "p-2" = .ok results) ∧
      s.dashboard "p-3" = .error (.profileNotFound "p-3") ∧
      ProfileStore.ofList [early, other, late] = s.profiles ∧
      store.fetch "s-1" = .ok (some (scheme "s-1" "C")) ∧
      store.put (scheme "s-2" "D") = (.error .notFound, store) := by
  intro today early late other s scheme store
  obtain ⟨hprofiles, hschemes⟩ := seeded_stores_keep_what_they_were_given
  obtain ⟨⟨listed, hlisted⟩, hviews, hshuffled⟩ := hprofiles [early, late, other]
  obtain ⟨_, hstore⟩ := hschemes [scheme "s-1" "A", scheme "s-1" "B"] [scheme "s-1" "C"]
  have hlate : late ∈ listed :=
    (hlisted.last late).mpr ⟨[early], [other], rfl, by simp [other, late]⟩
  have hknown := (hviews s rfl rfl "p-2").1 (by decide)
  have hunknown := (hviews s rfl rfl "p-3").2 (by decide)
  refine ⟨hlisted.fetch_listed late hlate, hknown.1, hunknown.2,
    hshuffled [early, other, late] fun id => ?_, ?_, hstore.put_unknown _ (by simp [scheme])⟩
  · by_cases hid : other.id = id
    · subst hid
      decide
    · simp [List.filter_cons, hid]
  · rw [hstore.latest]
    rfl

end Entitlement
