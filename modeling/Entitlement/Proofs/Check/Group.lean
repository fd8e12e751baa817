import Entitlement.Proofs.Check.Condition
import Mathlib.Data.List.Basic

/-!
# When a group passes, and what it lists

Groups are evaluated by counting the rows that do not hold. Here a group passes by what its joiner
says of its rows, and a group that fails lists its rows that do not hold, or all of them where the
joiner is not recognized.
-/

namespace Entitlement

namespace Group

variable {g : Group} {p q : Profile} {today later : Date}

/-- What the joiner asks of the rows. A group without rows passes under either joiner. -/
def Passes (g : Group) (p : Profile) (today : Date) : Prop :=
  match g.joiner with
  | .known .all => ∀ c ∈ g.rows, c.check p today = .satisfied
  | .known .any => g.rows = [] ∨ ∃ c ∈ g.rows, c.check p today = .satisfied
  | .unrecognized _ => False

instance (g : Group) (p : Profile) (today : Date) : Decidable (g.Passes p today) :=
  match g with
  | ⟨.known .all, rows⟩ => inferInstanceAs (Decidable (∀ c ∈ rows, c.check p today = .satisfied))
  | ⟨.known .any, rows⟩ =>
    inferInstanceAs (Decidable (rows = [] ∨ ∃ c ∈ rows, c.check p today = .satisfied))
  | ⟨.unrecognized _, _⟩ => inferInstanceAs (Decidable False)

/-- The rows that a group lists because it fails. -/
def listed (g : Group) (p : Profile) (today : Date) : List Condition :=
  (g.evaluate p today).failures.map (·.condition)

/-- How many of the rows that a group lists were refused. -/
def refusals (g : Group) (p : Profile) (today : Date) : Nat :=
  (g.evaluate p today).failures.countP (·.outcome.isRefused)

/-! ### The rows that do not hold -/

theorem unmet_eq (g : Group) (p : Profile) (today : Date) :
    g.unmet p today =
      (g.rows.filter fun c => c.check p today ≠ .satisfied).map fun c => ⟨c, c.check p today⟩ := by
  rw [unmet]
  induction g.rows with
  | nil => rfl
  | cons c rows ih =>
    rw [List.filterMap_cons, List.filter_cons, ih]
    cases hc : c.check p today with
    | satisfied => simp
    | unsatisfied => simp [hc]
    | refused reason => simp [hc]

theorem unmet_isEmpty_iff :
    (g.unmet p today).isEmpty = true ↔ ∀ c ∈ g.rows, c.check p today = .satisfied := by
  rw [unmet_eq, List.isEmpty_iff, List.map_eq_nil_iff, List.filter_eq_nil_iff]
  simp

theorem length_unmet_lt_iff :
    (g.unmet p today).length < g.rows.length ↔ ∃ c ∈ g.rows, c.check p today = .satisfied := by
  rw [unmet_eq, List.length_map, List.length_filter_lt_length_iff_exists]
  simp

theorem countP_unmet (g : Group) (p : Profile) (today : Date) :
    (g.unmet p today).countP (·.outcome.isRefused) =
      g.rows.countP fun c => (c.check p today).isRefused := by
  rw [unmet_eq, List.countP_map, List.countP_filter]
  refine List.countP_congr fun c _ => ?_
  cases hc : c.check p today <;> simp [hc, Outcome.isRefused]

/-! ### Passing -/

theorem resultOf_passed (g : Group) (joiner : Joiner) (unmet : List Failure) :
    (g.resultOf joiner unmet).passed = joiner.passes g.rows unmet := by
  cases h : joiner.passes g.rows unmet <;> simp [resultOf, h]

theorem resultOf_failures (g : Group) (joiner : Joiner) (unmet : List Failure) :
    (g.resultOf joiner unmet).failures = if joiner.passes g.rows unmet then [] else unmet := by
  cases h : joiner.passes g.rows unmet <;> simp [resultOf, h]

theorem passed_iff : (g.evaluate p today).passed = true ↔ g.Passes p today := by
  rw [evaluate, Passes]
  rcases g.joiner with (_ | _) | raw
  · -- all rows are asked for
    rw [resultOf_passed]
    exact unmet_isEmpty_iff
  · -- any row is asked for
    rw [resultOf_passed, Joiner.passes, Bool.or_eq_true, List.isEmpty_iff, decide_eq_true_iff,
      length_unmet_lt_iff]
  · exact iff_of_false Bool.false_ne_true id

theorem passed_allOf_singleton {c : Condition} :
    ((allOf [c]).evaluate p today).passed = true ↔ c.check p today = .satisfied := by
  rw [passed_iff]
  exact List.forall_mem_singleton

theorem failures_of_known {joiner : Joiner} (hj : g.joiner = .known joiner) :
    (g.evaluate p today).failures =
      if (g.evaluate p today).passed then [] else g.unmet p today := by
  rw [evaluate, hj]
  exact (resultOf_failures g joiner _).trans (by rw [resultOf_passed])

theorem failures_of_passes (h : g.Passes p today) : (g.evaluate p today).failures = [] := by
  cases hj : g.joiner with
  | known joiner => rw [failures_of_known hj, if_pos (passed_iff.mpr h)]
  | unrecognized raw => rw [Passes, hj] at h; exact h.elim

theorem failures_of_not_passes {joiner : Joiner} (hj : g.joiner = .known joiner)
    (h : ¬ g.Passes p today) : (g.evaluate p today).failures = g.unmet p today := by
  rw [failures_of_known hj, if_neg fun hp => h (passed_iff.mp hp)]

theorem failures_of_unrecognized {raw : String} (hj : g.joiner = .unrecognized raw) :
    (g.evaluate p today).failures =
      g.rows.map fun c => ⟨c, .refused (.unrecognizedJoiner raw)⟩ := by
  rw [evaluate, hj]

/-! ### Listing -/

theorem listed_of_passes (h : g.Passes p today) : g.listed p today = [] := by
  rw [listed, failures_of_passes h, List.map_nil]

theorem refusals_of_passes (h : g.Passes p today) : g.refusals p today = 0 := by
  rw [refusals, failures_of_passes h, List.countP_nil]

theorem listed_of_not_passes {joiner : Joiner} (hj : g.joiner = .known joiner)
    (h : ¬ g.Passes p today) :
    g.listed p today = g.rows.filter fun c => c.check p today ≠ .satisfied := by
  rw [listed, failures_of_not_passes hj h, unmet_eq, List.map_map]
  exact List.map_id _

theorem refusals_of_not_passes {joiner : Joiner} (hj : g.joiner = .known joiner)
    (h : ¬ g.Passes p today) :
    g.refusals p today = g.rows.countP fun c => (c.check p today).isRefused := by
  rw [refusals, failures_of_not_passes hj h, countP_unmet]

theorem listed_of_unrecognized {raw : String} (hj : g.joiner = .unrecognized raw) :
    g.listed p today = g.rows := by
  rw [listed, failures_of_unrecognized hj, List.map_map]
  exact List.map_id _

theorem refusals_of_unrecognized {raw : String} (hj : g.joiner = .unrecognized raw) :
    g.refusals p today = g.rows.length := by
  rw [refusals, failures_of_unrecognized hj, List.countP_map]
  exact List.countP_eq_length.mpr fun _ _ => rfl

end Group

end Entitlement
