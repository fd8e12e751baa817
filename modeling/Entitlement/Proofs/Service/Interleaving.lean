import Entitlement.Proofs.Service.Frame
import Mathlib.Data.List.Perm.Basic

/-!
# Requests that come in between each other

Requests to publish that are under way together take their steps in turns, in any order. A request
carries a whole scheme from its first step to its last, and others may have been published in
between. No update is lost all the same: what a request carries is the scheme as it was stored, but
for what publishing records, and from that every service that agrees on the rest publishes the same.
So each request is on the way to the answer that it has alone, and the store is at all times the one
it would be had the requests that are through been made one by one.
-/

namespace Entitlement

/-! ### The steps of one request -/

namespace Publishing

/-- Holds once the scheme is published. -/
def succeeded : Publishing → Bool
  | .finished answer => answer.isOk
  | _ => false

/-- Where a request may stand, by the service that it was made to. -/
def OnTrack (s : Service) (id : String) : Publishing → Prop
  | .requested schemeId => schemeId = id
  | .fetched t warnings =>
    ∃ u, s.scheme id = .ok u ∧ t.unpublished = u.unpublished ∧ t.conditions.Clean ∧
      warnings = t.conditions.issues.filter (!·.isError)
  | .matched t outcome =>
    ∃ u, s.scheme id = .ok u ∧ t = s.published u ∧ (s.publish id).1 = .ok outcome
  | .finished answer => answer = (s.publish id).1

variable {s s' : Service} {id : String} {q : Publishing}

/-- A step on any service that agrees with the first one but for what is recorded keeps the request
on track. It changes the service only when it publishes, and then in the scheme of the request. -/
theorem step_onTrack (h : s'.unpublished = s.unpublished) (hq : q.OnTrack s id) :
    (q.step s').1.OnTrack s id ∧
      (q.step s').2 =
        if !q.succeeded && (q.step s').1.succeeded then s'.amended id else s' := by
  cases q with
  | requested schemeId =>
    obtain rfl : schemeId = id := hq
    cases hs : s.scheme schemeId with
    | error e =>
      have hstep : step s' (.requested schemeId) = (.finished (.error e), s') := by
        simp only [step, Service.scheme_error_of_unpublished h hs]
      rw [hstep]
      exact ⟨by rw [OnTrack, Service.publish_of_error hs], rfl⟩
    | ok u =>
      obtain ⟨t, hs', htu⟩ := Service.exists_scheme_of_unpublished h hs
      have hconditions : t.conditions = u.conditions := Scheme.conditions_eq_of_unpublished htu
      have hstep : step s' (.requested schemeId) = (afterFetch schemeId t, s') := by
        simp only [step, hs']
      rw [hstep]
      by_cases hclean : t.conditions.Clean
      · rw [afterFetch_of_clean schemeId hclean]
        exact ⟨⟨u, hs, htu, hclean, rfl⟩, rfl⟩
      · rw [afterFetch_of_not_clean schemeId hclean, hconditions]
        rw [hconditions] at hclean
        exact ⟨by rw [OnTrack, Service.publish_of_not_clean hs hclean], rfl⟩
  | fetched t warnings =>
    obtain ⟨u, hs, htu, hclean, rfl⟩ := hq
    have hprofiles : s'.profiles = s.profiles := Service.profiles_eq_of_unpublished h
    have hconditions : t.conditions = u.conditions := Scheme.conditions_eq_of_unpublished htu
    rw [hconditions] at hclean
    cases hout : s.profiles.outage with
    | some e =>
      have hstep : step s' (.fetched t (t.conditions.issues.filter (!·.isError))) =
          (.finished (.error (.store e)), s') := by
        simp only [step, ProfileStore.all, hprofiles, hout, unlessOut]
      rw [hstep]
      exact ⟨by rw [OnTrack, Service.publish_of_outage hs hclean hout], rfl⟩
    | none =>
      have hstep : step s' (.fetched t (t.conditions.issues.filter (!·.isError))) =
          (.matched (s'.published t) (s'.outcome t), s') := by
        simp only [step, ProfileStore.all, hprofiles, hout, unlessOut]
        rw [← hprofiles]
        rfl
      rw [hstep, Service.published_eq_of_unpublished h htu, Service.outcome_eq_of_unpublished h htu]
      exact ⟨⟨u, hs, rfl, by rw [Service.publish_of_clean hs hclean hout]⟩, rfl⟩
  | matched t outcome =>
    obtain ⟨u, hs, rfl, hanswer⟩ := hq
    obtain ⟨v, hs', hvu⟩ := Service.exists_scheme_of_unpublished h hs
    have hupdate := Service.update_published hs'
    rw [Service.published_eq_of_unpublished h hvu] at hupdate
    have hstep : step s' (.matched (s.published u) outcome) =
        (.finished (.ok outcome), s'.amended id) := by
      simp only [step, hupdate]
      rfl
    rw [hstep]
    exact ⟨hanswer.symm, rfl⟩
  | finished answer =>
    have hstep : step s' (.finished answer) = (.finished answer, s') := rfl
    rw [hstep, Bool.not_and_self]
    exact ⟨hq, rfl⟩

theorem succeeded_step (s : Service) (q : Publishing) (h : q.succeeded = true) :
    (q.step s).1.succeeded = true := by
  cases q with
  | finished answer => exact h
  | requested | fetched | matched => cases h

theorem remaining_step_le (s : Service) (q : Publishing) :
    (q.step s).1.remaining ≤ q.remaining - 1 := by
  by_cases hq : q.remaining = 0
  · cases q with
    | finished answer => exact Nat.le_refl 0
    | requested | fetched | matched => cases hq
  · have hlt := remaining_step_lt s q hq
    omega

/-- A request on track that has no step left has the answer that it has alone. -/
theorem OnTrack.progress_eq (h : q.OnTrack s id) (hq : q.remaining = 0) :
    q = .finished (s.publish id).1 := by
  cases q with
  | finished answer => exact congrArg finished h
  | requested | fetched | matched => cases hq

end Publishing

/-! ### Requests under way together -/

/-- A request to publish: the id that it names and where it stands. -/
structure Request where
  schemeId : String
  progress : Publishing

/-- Requests that are under way on one service. -/
structure Traffic where
  service : Service
  requests : List Request

namespace Traffic

/-- Requests for the given ids, none of which has taken a step. -/
def start (s : Service) (ids : List String) : Traffic :=
  ⟨s, ids.map fun id => ⟨id, .requested id⟩⟩

/-- Lets the request at a place take its next step. Nothing happens if there is none or if it is
finished. -/
def turn (w : Traffic) (place : Nat) : Traffic :=
  match w.requests[place]? with
  | none => w
  | some r =>
    { service := (r.progress.step w.service).2
      requests := w.requests.set place { r with progress := (r.progress.step w.service).1 } }

/-- Lets requests take their steps in the order of the given places. -/
def turns (w : Traffic) (places : List Nat) : Traffic :=
  places.foldl turn w

/-- Holds when no request has a step left. -/
def Finished (w : Traffic) : Prop :=
  ∀ r ∈ w.requests, r.progress.remaining = 0

end Traffic

/-- The ids of those requests that have published their schemes. -/
def Request.through (requests : List Request) : List String :=
  (requests.filter (·.progress.succeeded)).map (·.schemeId)

/-- The service after the first schemes with the given ids were published. -/
def Service.amendedAll (s : Service) (ids : List String) : Service :=
  ids.foldl amended s

/-- What holds of requests under way, by the service that they were made to. -/
structure Traffic.Sound (s : Service) (w : Traffic) : Prop where
  service_eq : w.service = s.amendedAll (Request.through w.requests)
  onTrack : ∀ r ∈ w.requests, r.progress.OnTrack s r.schemeId

variable {s : Service} {w : Traffic} {ids : List String}

/-! ### Publishing several schemes -/

namespace Service

theorem amendedAll_perm {ids ids' : List String} (h : ids.Perm ids') :
    s.amendedAll ids = s.amendedAll ids' :=
  haveI : RightCommutative amended := ⟨amended_comm⟩
  h.foldl_eq s

/-- It does not matter when a scheme is published among others. -/
theorem amendedAll_amended (before after : List String) (id : String) :
    (s.amendedAll (before ++ after)).amended id = s.amendedAll (before ++ id :: after) := by
  have hlast : (s.amendedAll (before ++ after)).amended id =
      s.amendedAll ((before ++ after).concat id) := by
    rw [amendedAll, amendedAll, List.concat_eq_append, List.foldl_concat]
  rw [hlast, List.concat_eq_append]
  exact amendedAll_perm ((List.perm_append_singleton id _).trans List.perm_middle.symm)

theorem unpublished_amendedAll (s : Service) (ids : List String) :
    (s.amendedAll ids).unpublished = s.unpublished := by
  induction ids generalizing s with
  | nil => rfl
  | cons id ids ih => exact (ih (s.amended id)).trans (unpublished_amended s id)

/-- One after the other, the requests that succeed are those that would succeed alone. -/
theorem publishAll_eq_amendedAll {s' : Service} (h : s'.unpublished = s.unpublished)
    (ids : List String) :
    s'.publishAll ids = s'.amendedAll (ids.filter fun id => (s.publish id).1.isOk) := by
  induction ids generalizing s' with
  | nil => rfl
  | cons id ids ih =>
    have hnext : s'.publishAll (id :: ids) = (s'.publish id).2.publishAll ids := rfl
    rw [hnext, ih ((unpublished_publish s' id).trans h), publish_eq_of_unpublished h,
      List.filter_cons]
    split_ifs <;> rfl

end Service

/-! ### Turns -/

namespace Traffic

/-- A turn lets one request among the others take a step, or does nothing. -/
theorem turn_cases (w : Traffic) (place : Nat) :
    w.turn place = w ∨
      ∃ before r after, w.requests = before ++ r :: after ∧
        w.turn place =
          { service := (r.progress.step w.service).2
            requests :=
              before ++ { r with progress := (r.progress.step w.service).1 } :: after } := by
  rw [turn]
  cases hr : w.requests[place]? with
  | none => exact Or.inl rfl
  | some r =>
    obtain ⟨hlt, hget⟩ := List.getElem?_eq_some_iff.mp hr
    refine Or.inr ⟨w.requests.take place, r, w.requests.drop (place + 1), ?_, ?_⟩
    · rw [← hget, List.getElem_cons_drop, List.take_append_drop]
    · dsimp only
      rw [List.set_eq_take_append_cons_drop, if_pos hlt]

theorem through_append (before after : List Request) (r : Request) :
    Request.through (before ++ r :: after) =
      Request.through before ++ (if r.progress.succeeded then [r.schemeId] else []) ++
        Request.through after := by
  simp only [Request.through, List.filter_append, List.filter_cons, List.map_append]
  split_ifs <;> simp

theorem Sound.unpublished_eq (h : w.Sound s) : w.service.unpublished = s.unpublished := by
  rw [h.service_eq, Service.unpublished_amendedAll]

theorem start_sound (s : Service) (ids : List String) : (start s ids).Sound s := by
  have hnone : Request.through (start s ids).requests = [] := by
    simp [Request.through, start, List.filter_map, Function.comp_def, Publishing.succeeded]
  refine ⟨by rw [hnone]; rfl, ?_⟩
  intro r hr
  obtain ⟨id, _, rfl⟩ := List.mem_map.mp hr
  rfl

/-- A turn keeps requests on track, and the store as if those that are through came one by one. -/
theorem turn_sound (h : w.Sound s) (place : Nat) : (w.turn place).Sound s := by
  obtain hnone | ⟨before, r, after, hrequests, hturn⟩ := w.turn_cases place
  · rw [hnone]
    exact h
  have honTrack := h.onTrack
  have hservice := h.service_eq
  rw [hrequests] at honTrack hservice
  obtain ⟨htrack, heffect⟩ := Publishing.step_onTrack h.unpublished_eq
    (honTrack r (List.mem_append_right _ List.mem_cons_self))
  have hkeep := Publishing.succeeded_step w.service r.progress
  rw [hturn]
  generalize r.progress.step w.service = next at htrack heffect hkeep
  constructor
  · dsimp only
    rw [heffect, hservice, through_append, through_append]
    cases hdone : r.progress.succeeded with
    | true => simp [hkeep hdone]
    | false =>
      cases hnext : next.1.succeeded with
      | false => simp
      -- the scheme is published last and counted where its request stands
      | true => simpa using Service.amendedAll_amended (Request.through before) _ r.schemeId
  · intro r' hr'
    rcases List.mem_append.mp hr' with hr' | hr'
    · exact honTrack r' (List.mem_append_left _ hr')
    · rcases List.mem_cons.mp hr' with rfl | hr'
      · exact htrack
      · exact honTrack r' (List.mem_append_right _ (List.mem_cons_of_mem _ hr'))

theorem turns_sound (h : w.Sound s) (places : List Nat) : (w.turns places).Sound s := by
  induction places generalizing w with
  | nil => exact h
  | cons place places ih => exact ih (turn_sound h place)

theorem ids_turns (w : Traffic) (places : List Nat) :
    (w.turns places).requests.map (·.schemeId) = w.requests.map (·.schemeId) := by
  induction places generalizing w with
  | nil => rfl
  | cons place places ih =>
    refine (ih (w.turn place)).trans ?_
    obtain hnone | ⟨before, r, after, hrequests, hturn⟩ := w.turn_cases place
    · rw [hnone]
    · rw [hturn, hrequests, List.map_append, List.map_append, List.map_cons, List.map_cons]

/-! ### Coming to an end -/

theorem turn_getElem? (w : Traffic) (place i : Nat) :
    (w.turn place).requests[i]? =
      w.requests[i]?.map fun r =>
        if place = i then { r with progress := (r.progress.step w.service).1 } else r := by
  rw [turn]
  cases hr : w.requests[place]? with
  | none =>
    by_cases hi : place = i
    · rw [← hi, hr, Option.map_none]
    · simp [hi]
  | some r =>
    dsimp only
    rw [List.getElem?_set]
    split_ifs with hi hlt
    · subst hi
      simp [hr]
    · subst hi
      simp [List.getElem?_eq_none (Nat.le_of_not_lt hlt)]
    · simp

/-- Each turn of a request takes one of its steps, as long as there are any. -/
theorem exists_remaining_turns (places : List Nat) : ∀ {w : Traffic} {i : Nat} {r : Request},
    w.requests[i]? = some r →
      ∃ r', (w.turns places).requests[i]? = some r' ∧
        r'.progress.remaining ≤ r.progress.remaining - places.count i := by
  induction places with
  | nil => exact fun hr => ⟨_, hr, Nat.le_refl _⟩
  | cons place places ih =>
    intro w i r hr
    have hnext := turn_getElem? w place i
    rw [hr, Option.map_some] at hnext
    obtain ⟨r', hr', hle⟩ := ih hnext
    refine ⟨r', hr', Nat.le_trans hle ?_⟩
    rw [List.count_cons]
    by_cases hi : place = i
    · have hstep := Publishing.remaining_step_le w.service r.progress
      simp only [hi, if_true, beq_self_eq_true]
      omega
    · simp [hi]

theorem finished_turns {places : List Nat} (s : Service) (ids : List String)
    (hturns : ∀ i < ids.length, 3 ≤ places.count i) : ((start s ids).turns places).Finished := by
  intro r hr
  obtain ⟨i, hi⟩ := List.getElem?_of_mem hr
  have hlength : ((start s ids).turns places).requests.length = ids.length := by
    simpa [start] using congrArg List.length (ids_turns (start s ids) places)
  have hlt : i < ids.length := by
    rw [← hlength]
    exact (List.getElem?_eq_some_iff.mp hi).1
  have hfirst : (start s ids).requests[i]? = some ⟨ids[i], .requested ids[i]⟩ := by
    simp [start, hlt]
  obtain ⟨r', hr', hle⟩ := exists_remaining_turns places hfirst
  obtain rfl : r' = r := Option.some.inj (hr'.symm.trans hi)
  have hthree := hturns i hlt
  have hsteps : (Publishing.requested ids[i]).remaining = 3 := rfl
  dsimp only at hle
  omega

/-! ### What is left of the order -/

/-- A scheme that was fetched can be put back, whatever came in between. -/
theorem Sound.exists_update (h : w.Sound s) {r : Request} (hr : r ∈ w.requests) {t : Scheme}
    {o : PublishOutcome} (hmatched : r.progress = .matched t o) :
    ∃ schemes, w.service.schemes.update t = .ok schemes := by
  have honTrack := h.onTrack r hr
  rw [hmatched] at honTrack
  obtain ⟨u, hs, rfl, _⟩ := honTrack
  obtain ⟨v, hv, hvu⟩ := Service.exists_scheme_of_unpublished h.unpublished_eq hs
  rw [← Service.published_eq_of_unpublished h.unpublished_eq hvu]
  exact ⟨_, Service.update_published hv⟩

theorem Sound.progress_eq (h : w.Sound s) (hfinished : w.Finished) :
    w.requests.map (·.progress) =
      (w.requests.map (·.schemeId)).map fun id => .finished (s.publish id).1 := by
  rw [List.map_map]
  exact List.map_congr_left fun r hr => (h.onTrack r hr).progress_eq (hfinished r hr)

theorem Sound.service_eq_publishAll (h : w.Sound s) (hfinished : w.Finished) {order : List String}
    (horder : order.Perm (w.requests.map (·.schemeId))) : w.service = s.publishAll order := by
  have hthrough : Request.through w.requests =
      (w.requests.map (·.schemeId)).filter fun id => (s.publish id).1.isOk := by
    rw [Request.through, List.filter_map]
    refine congrArg _ (List.filter_congr fun r hr => ?_)
    rw [(h.onTrack r hr).progress_eq (hfinished r hr)]
    rfl
  rw [h.service_eq, hthrough, Service.publishAll_eq_amendedAll rfl]
  exact Service.amendedAll_perm (horder.symm.filter _)

end Traffic

/-- Requests to publish that take their steps in any order lose no update. Each scheme that a
request has fetched can be put back. Once all requests are finished, the service is as if they had
been made one after the other, in whichever order, and each has the answer that it has alone. And
they are finished when each has had three turns. -/
theorem interleaved_publishing_loses_no_update (s : Service) (ids : List String)
    (places : List Nat) :
    let last := (Traffic.start s ids).turns places
    (∀ r ∈ last.requests, ∀ t o, r.progress = .matched t o →
      ∃ schemes, last.service.schemes.update t = .ok schemes) ∧
    (last.Finished →
      (∀ order : List String, order.Perm ids → last.service = s.publishAll order) ∧
        last.requests.map (·.progress) = ids.map fun id => .finished (s.publish id).1) ∧
    ((∀ i < ids.length, 3 ≤ places.count i) → last.Finished) := by
  intro last
  have hsound : last.Sound s := Traffic.turns_sound (Traffic.start_sound s ids) places
  have hids : last.requests.map (·.schemeId) = ids := by
    rw [Traffic.ids_turns, Traffic.start, List.map_map]
    exact List.map_id ids
  refine ⟨fun r hr t o hmatched => hsound.exists_update hr hmatched, ?_,
    Traffic.finished_turns s ids⟩
  intro hfinished
  refine ⟨fun order horder => hsound.service_eq_publishAll hfinished (hids.symm ▸ horder), ?_⟩
  rw [hsound.progress_eq hfinished, hids]

/-- Two requests for one scheme fetch it before either puts it back. The second is about to put back
what it fetched before the first was through. In the end the scheme is published with its match. -/
theorem two_requests_for_one_scheme :
    let today : Date := ⟨2024, 6, 15, by decide, by decide, by decide⟩
    let p : Profile := { id := "p-1", state := some "Kerala" }
    let t : Scheme :=
      { id := "s-1", name := "Merit", deadline := today,
        conditions := [.allOf [⟨.known .state, .known .equals, .text "Kerala"⟩]] }
    let s : Service := { profiles := .ofList [p], schemes := .ofList [t], today }
    let ids := ["s-1", "s-1", "s-9"]
    let places := [0, 1, 0, 1, 0, 1, 2, 2, 2]
    let halfway := (Traffic.start s ids).turns [0, 1, 0, 1, 0]
    let last := (Traffic.start s ids).turns places
    (∃ r ∈ halfway.requests, ∃ t o, r.progress = .matched t o ∧
      ∃ schemes, halfway.service.schemes.update t = .ok schemes) ∧
    (∀ i < ids.length, 3 ≤ places.count i) ∧ last.Finished ∧
      ["s-9", "s-1", "s-1"].Perm ids ∧ last.service = s.publishAll ["s-9", "s-1", "s-1"] ∧
      last.requests.map (·.progress) = ids.map (fun id => .finished (s.publish id).1) ∧
      last.service.schemes.records =
        [{ t with status := .published, matchedProfiles := ["p-1"], totalMatches := 1 }] := by
  intro today p t s ids places halfway last
  have hturns : ∀ i < ids.length, 3 ≤ places.count i := by decide
  have horder : ["s-9", "s-1", "s-1"].Perm ids := by decide
  obtain ⟨_, hserial, hend⟩ := interleaved_publishing_loses_no_update s ids places
  have hfinished : last.Finished := hend hturns
  refine ⟨?_, hturns, hfinished, horder, (hserial hfinished).1 _ horder, (hserial hfinished).2,
    by decide +kernel⟩
  have hstands : halfway.requests.map (·.progress.remaining) = [0, 1, 3] := by decide +kernel
  have hone : 1 ∈ halfway.requests.map (·.progress.remaining) := by
    rw [hstands]
    decide
  obtain ⟨r, hr, hremaining⟩ := List.mem_map.mp hone
  cases hq : r.progress with
  | matched t o =>
    exact ⟨r, hr, t, o, hq,
      (interleaved_publishing_loses_no_update s ids [0, 1, 0, 1, 0]).1 r hr t o hq⟩
  | requested | fetched | finished => rw [hq] at hremaining; cases hremaining

end Entitlement
