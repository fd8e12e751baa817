import Entitlement.Proofs.Calendar.DayNumber
import Entitlement.Service.Dashboard
import Mathlib.Data.List.Basic

/-!
# The window of the dashboard

A deadline is near when it lies on this side of the horizon, which is worked out by going forward
from today, and the days that remain are worked out by going back from the deadline. Both count the
same days, and where the calendar ends before the window does, every deadline is near. The lists
are sorted by deadline, and schemes with one deadline keep the order of the catalog.
-/

namespace Entitlement

/-! ### Sorting by date -/

section

variable {α β : Type} {date : α → Date} {chosen shown : List α}

/-- Holds when `shown` lists what was chosen, ascending by date, and leaves all that has one date in
the order in which it was chosen. -/
structure SortedByDate (date : α → Date) (chosen shown : List α) : Prop where
  perm : shown.Perm chosen
  ascending : shown.Pairwise fun a b => date a ≤ date b
  stable : ∀ day, (shown.filter fun a => date a = day) = chosen.filter fun a => date a = day

theorem Date.le_trans {d e f : Date} (hde : d ≤ e) (hef : e ≤ f) : d ≤ f := by
  rw [le_iff_dayNumber_le] at hde hef ⊢
  exact Int.le_trans hde hef

theorem Date.le_total (d e : Date) : d ≤ e ∨ e ≤ d := by
  rw [le_iff_dayNumber_le, le_iff_dayNumber_le]
  exact Int.le_total _ _

theorem Date.le_refl (d : Date) : d ≤ d :=
  le_iff_dayNumber_le.mpr (Int.le_refl _)

theorem sortedByDate_mergeSort (date : α → Date) (l : List α) :
    SortedByDate date l (l.mergeSort fun a b => date a ≤ date b) := by
  have htrans (a b c : α) (hab : decide (date a ≤ date b) = true)
      (hbc : decide (date b ≤ date c) = true) : decide (date a ≤ date c) = true :=
    decide_eq_true (Date.le_trans (of_decide_eq_true hab) (of_decide_eq_true hbc))
  have htotal (a b : α) : (decide (date a ≤ date b) || decide (date b ≤ date a)) = true := by
    rcases Date.le_total (date a) (date b) with h | h <;> simp [h]
  have hperm := List.mergeSort_perm l fun a b => decide (date a ≤ date b)
  refine ⟨hperm, (List.pairwise_mergeSort htrans htotal l).imp of_decide_eq_true, fun day => ?_⟩
  -- what has one date is in order as it stands, so that sorting keeps it as a part
  have hsame : (l.filter fun a => date a = day).Pairwise
      fun a b => decide (date a ≤ date b) = true := by
    refine List.pairwise_of_forall_mem_list fun a ha b hb => decide_eq_true ?_
    rw [of_decide_eq_true (List.mem_filter.mp ha).2, of_decide_eq_true (List.mem_filter.mp hb).2]
    exact Date.le_refl day
  have hpart := (List.sublist_mergeSort htrans htotal hsame List.filter_sublist).filter
    fun a => decide (date a = day)
  rw [List.filter_filter] at hpart
  simp only [Bool.and_self] at hpart
  exact (hpart.eq_of_length (hperm.filter _).length_eq.symm).symm

theorem SortedByDate.filter (h : SortedByDate date chosen shown) (p : α → Bool) :
    SortedByDate date (chosen.filter p) (shown.filter p) where
  perm := h.perm.filter p
  ascending := h.ascending.filter p
  stable day := by
    rw [List.filter_comm, h.stable, List.filter_comm]

theorem SortedByDate.map {shownDate : β → Date} (h : SortedByDate date chosen shown) (f : α → β)
    (hdate : ∀ a, shownDate (f a) = date a) :
    SortedByDate shownDate (chosen.map f) (shown.map f) := by
  have hfilter (day : Date) (l : List α) : ((l.map f).filter fun b => shownDate b = day) =
      (l.filter fun a => date a = day).map f := by
    simp only [List.filter_map, Function.comp_def, hdate]
  refine ⟨h.perm.map f, ?_, fun day => ?_⟩
  · rw [List.pairwise_map]
    simp only [hdate]
    exact h.ascending
  · rw [hfilter, hfilter, h.stable]

end

/-! ### The horizon -/

namespace Date

variable {d e : Date} {n : Nat}

/-- The days from one date to another are the steps that lead there. -/
theorem daysUntil_eq_iff : d.daysUntil e = n ↔ d.after? n = some e := by
  rw [after?_eq_some_iff, daysUntil]
  omega

theorem le_iff_daysUntil_nonneg : d ≤ e ↔ 0 ≤ d.daysUntil e := by
  rw [le_iff_dayNumber_le, daysUntil]
  omega

/-- The horizon is as far as the window reaches. Where the calendar ends before, no date is beyond
it, because the window then reaches past all of them. -/
theorem le_horizon_iff : e ≤ d.horizon n ↔ d.daysUntil e ≤ n := by
  cases h : d.plusDays? n with
  | some f =>
    have hnumber := plusDays?_eq_some_iff.mp h
    rw [horizon, h, Option.getD_some, le_iff_dayNumber_le, daysUntil]
    omega
  | none =>
    rw [horizon, h, Option.getD_none]
    refine iff_of_true (le_last e) ?_
    by_contra hbeyond
    have hlast := le_iff_dayNumber_le.mp (le_last e)
    rw [daysUntil] at hbeyond
    obtain ⟨f, hf, _⟩ := exists_after? d (n := n) (by omega)
    rw [plusDays?_eq_after?, hf] at h
    cases h

theorem le_horizon_of_after?_eq_none (h : d.after? n = none) : e ≤ d.horizon n := by
  rw [horizon, plusDays?_eq_after?, h]
  exact le_last e

end Date

/-! ### The lists -/

theorem activeSchemes_sorted (schemes : List Scheme) (today : Date) :
    SortedByDate (·.deadline) (schemes.filter (·.isActive today))
      (activeSchemes schemes today) :=
  sortedByDate_mergeSort _ _

theorem Scheme.isActive_iff {t : Scheme} {today : Date} :
    t.isActive today = true ↔ t.status = .published ∧ 0 ≤ today.daysUntil t.deadline := by
  rw [isActive, Bool.and_eq_true, decide_eq_true_iff, decide_eq_true_iff,
    Date.le_iff_daysUntil_nonneg]

/-- The schemes that are near, chosen by their days. -/
theorem filter_active_near (schemes : List Scheme) (today : Date) (window : Nat) :
    (schemes.filter (·.isActive today)).filter (fun t => t.deadline ≤ today.horizon window) =
      schemes.filter fun t => t.status = .published ∧ 0 ≤ today.daysUntil t.deadline ∧
        today.daysUntil t.deadline ≤ window := by
  rw [List.filter_filter]
  refine List.filter_congr fun t _ => ?_
  rw [Bool.eq_iff_iff, Bool.and_eq_true, decide_eq_true_iff, decide_eq_true_iff,
    Scheme.isActive_iff, Date.le_horizon_iff]
  exact ⟨fun h => ⟨h.2.1, h.2.2, h.1⟩, fun h => ⟨h.2.2, h.1, h.2.1⟩⟩

theorem filter_active (schemes : List Scheme) (today : Date) :
    schemes.filter (·.isActive today) =
      schemes.filter fun t => t.status = .published ∧ 0 ≤ today.daysUntil t.deadline := by
  refine List.filter_congr fun t _ => ?_
  rw [Bool.eq_iff_iff, Scheme.isActive_iff, decide_eq_true_iff]

theorem filter_active_eligible (schemes : List Scheme) (today : Date) (p : Profile) :
    ((schemes.filter (·.isActive today)).filter fun t =>
      (t.conditions.assess p today).verdict.isEligible) =
        schemes.filter fun t => t.status = .published ∧ 0 ≤ today.daysUntil t.deadline ∧
          (t.conditions.assess p today).verdict.isEligible = true := by
  rw [List.filter_filter]
  refine List.filter_congr fun t _ => ?_
  rw [Bool.eq_iff_iff, Bool.and_eq_true, decide_eq_true_iff, Scheme.isActive_iff]
  exact ⟨fun h => ⟨h.2.1, h.2.2, h.1⟩, fun h => ⟨h.2.2, h.1, h.2.1⟩⟩

/-- The dashboard of a stored profile, made of parts of the list of the active schemes. -/
theorem Service.dashboard_eq {s : Service} {id : String} {p : Profile} {schemes : List Scheme}
    (hp : s.profile id = .ok p) (hs : s.catalog = .ok schemes) :
    s.dashboard id = .ok
      { profileId := p.id
        today := s.today
        eligible := ((activeSchemes schemes s.today).filter fun t =>
          (t.conditions.assess p s.today).verdict.isEligible).map (·.onDashboard)
        upcoming := ((activeSchemes schemes s.today).filter fun t =>
          t.deadline ≤ s.today.horizon s.window).map (·.upcomingOn s.today) } := by
  rw [dashboard, hp, hs]
  rfl

/-- A stored profile has a dashboard. It lists the published schemes whose deadline is today or
later by at most the days of the window, each with those days, which are counted date by date; past
the end of the calendar nothing is left out. It also lists those that are still open and that the
profile is eligible for, and one without a description by its type and department. Both lists are
sorted by deadline, and otherwise in the order of the catalog. -/
theorem dashboard_window_is_exact (s : Service) (id : String) (p : Profile) (schemes : List Scheme)
    (hp : s.profile id = .ok p) (hs : s.catalog = .ok schemes) :
    let upcoming (t : Scheme) : UpcomingDeadline :=
      ⟨t.id, t.name, t.deadline, s.today.daysUntil t.deadline⟩
    let eligible (t : Scheme) : DashboardScheme :=
      ⟨t.id, t.name, t.department, t.description.getD (t.schemeType ++ " by " ++ t.department),
        t.deadline⟩
    (∃ dashboard, s.dashboard id = .ok dashboard ∧
      SortedByDate (·.deadline)
        ((schemes.filter fun t => t.status = .published ∧ 0 ≤ s.today.daysUntil t.deadline ∧
          s.today.daysUntil t.deadline ≤ s.window).map upcoming)
        dashboard.upcoming ∧
      (s.today.after? s.window = none →
        SortedByDate (·.deadline)
          ((schemes.filter fun t => t.status = .published ∧
            0 ≤ s.today.daysUntil t.deadline).map upcoming)
          dashboard.upcoming) ∧
      SortedByDate (·.deadline)
        ((schemes.filter fun t => t.status = .published ∧ 0 ≤ s.today.daysUntil t.deadline ∧
          (t.conditions.assess p s.today).verdict.isEligible = true).map eligible)
        dashboard.eligible) ∧
    ∀ (d e : Date) (n : Nat), d.daysUntil e = n ↔ d.after? n = some e := by
  intro upcoming eligible
  refine ⟨?_, fun _ _ _ => Date.daysUntil_eq_iff⟩
  have hsorted := activeSchemes_sorted schemes s.today
  refine ⟨_, Service.dashboard_eq hp hs, ?_, fun hend => ?_, ?_⟩
  · rw [← filter_active_near]
    exact (hsorted.filter _).map upcoming fun _ => rfl
  · have hall : ((activeSchemes schemes s.today).filter fun t =>
        t.deadline ≤ s.today.horizon s.window) = activeSchemes schemes s.today :=
      List.filter_eq_self.mpr fun t _ =>
        decide_eq_true (Date.le_horizon_of_after?_eq_none hend)
    dsimp only
    rw [hall, ← filter_active]
    exact hsorted.map upcoming fun _ => rfl
  · rw [← filter_active_eligible]
    exact (hsorted.filter _).map eligible fun _ => rfl

/-- Six days before the calendar ends, with a window of seven, the scheme that is open until the last
date is listed with those six days. The draft is not, nor is the one that closed the day before. -/
theorem window_past_the_last_date :
    let p : Profile := { id := "p-1", state := some "Kerala" }
    let today : Date := ⟨262142, 12, 25, by decide, by decide, by decide⟩
    let yesterday : Date := ⟨262142, 12, 24, by decide, by decide, by decide⟩
    let drafted : Scheme := { id := "s-1", name := "Drafted", deadline := today }
    let merit : Scheme :=
      { id := "s-2", name := "Merit", department := "Education", schemeType := "Scholarship",
        deadline := .last, status := .published,
        conditions := [.allOf [⟨.known .state, .known .equals, .text "Kerala"⟩]] }
    let closed : Scheme :=
      { id := "s-3", name := "Closed", deadline := yesterday, status := .published }
    let s : Service :=
      { profiles := .ofList [p], schemes := .ofList [drafted, merit, closed], today }
    s.profile "p-1" = .ok p ∧ s.catalog = .ok [drafted, merit, closed] ∧
      today.after? s.window = none ∧
      ∃ dashboard, s.dashboard "p-1" = .ok dashboard ∧
        dashboard.upcoming = [⟨"s-2", "Merit", .last, 6⟩] ∧
        dashboard.eligible =
          [⟨"s-2", "Merit", "Education", "Scholarship by Education", .last⟩] := by
  intro p today yesterday drafted merit closed s
  have hend : today.after? s.window = none := by decide +kernel
  obtain ⟨⟨dashboard, hdashboard, -, hall, heligible⟩, -⟩ :=
    dashboard_window_is_exact s "p-1" p [drafted, merit, closed] rfl rfl
  refine ⟨rfl, rfl, hend, dashboard, hdashboard, ?_, ?_⟩
  · refine List.perm_singleton.mp ((hall hend).perm.trans (List.Perm.of_eq ?_))
    decide +kernel
  · refine List.perm_singleton.mp (heligible.perm.trans (List.Perm.of_eq ?_))
    decide +kernel

end Entitlement
