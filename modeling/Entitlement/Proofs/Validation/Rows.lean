import Entitlement.Validation
import Entitlement.Proofs.Check.Condition
import Mathlib.Data.List.Basic

/-!
# What validation says of a row, and what a check makes of it

Validation goes on after the first defect where it can and a check stops there. Both look at the
parts of a row in the same order, so the first error reported for a row is the reason for which the
row is refused. The errors are looked up in the report of the whole ruleset, by place.
-/

namespace Entitlement

/-- The reason for which a row with this issue is refused. Issues of groups, and warnings, have
none. -/
def IssueKind.refusal? : IssueKind → Option Refusal
  | .unrecognizedField raw => some (.unrecognizedField raw)
  | .unrecognizedOperator raw => some (.unrecognizedOperator raw)
  | .unsupportedValue json => some (.unsupportedValue json)
  | .malformedRange raw => some (.malformedRange raw)
  | .nonNumericValue raw => some (.nonNumericTarget raw)
  | .emptyGroup | .unrecognizedJoiner _ | .unlistedValue _ _ => none

/-- The first error among some issues. -/
def firstError? (kinds : List IssueKind) : Option IssueKind :=
  kinds.find? fun kind => kind.severity = .error

/-- What is reported for the row at a place of the group at a place, in the order of the report. -/
def Ruleset.rowIssues (r : Ruleset) (place row : Nat) : List IssueKind :=
  (r.issues.filter fun i => i.group = place ∧ i.row = some row).map (·.kind)

/-! ### The report by places -/

section Places

variable {α β : Type}

/-- Going over a list with its places finds the element at a place where nothing is found at the
others. -/
theorem flatMap_zipIdx_of_place {F : α → Nat → List β} (place : Nat)
    (hF : ∀ a n, n ≠ place → F a n = []) :
    ∀ {l : List α} {n i : Nat} {a : α}, place = n + i → l[i]? = some a →
      ((l.zipIdx n).flatMap fun x => F x.1 x.2) = F a place
  | [], _, _, _, _, ha => by cases ha
  -- The place is the first one, and the rest lies at later ones.
  | x :: xs, n, 0, a, hplace, ha => by
    have hrest : ((xs.zipIdx (n + 1)).flatMap fun y => F y.1 y.2) = [] := by
      rw [List.flatMap_eq_nil_iff]
      intro y hy
      have hle : n + 1 ≤ y.2 := List.le_snd_of_mem_zipIdx hy
      exact hF y.1 y.2 (by omega)
    rw [List.getElem?_cons_zero, Option.some_inj] at ha
    rw [List.zipIdx_cons, List.flatMap_cons, hrest, List.append_nil, ha, hplace, Nat.add_zero]
  | x :: xs, n, i + 1, a, hplace, ha => by
    rw [List.getElem?_cons_succ] at ha
    rw [List.zipIdx_cons, List.flatMap_cons, hF x n (by omega), List.nil_append]
    exact flatMap_zipIdx_of_place place hF (by omega) ha

end Places

/-- Issues of one place are about a row all together or not at all. -/
theorem filter_map_issue (kinds : List IssueKind) (n : Nat) (spot : Option Nat) (place row : Nat) :
    (kinds.map (Issue.mk n spot)).filter (fun i => i.group = place ∧ i.row = some row) =
      if n = place ∧ spot = some row then kinds.map (Issue.mk n spot) else [] := by
  split_ifs with h
  · rw [List.filter_eq_self]
    intro i hi
    obtain ⟨kind, _, rfl⟩ := List.mem_map.mp hi
    exact decide_eq_true h
  · rw [List.filter_eq_nil_iff]
    intro i hi
    obtain ⟨kind, _, rfl⟩ := List.mem_map.mp hi
    simpa using h

namespace Group

theorem group_of_mem_issues {g : Group} {place : Nat} {i : Issue} (hi : i ∈ g.issues place) :
    i.group = place := by
  rw [issues, List.mem_append, List.mem_flatMap] at hi
  rcases hi with hi | ⟨x, _, hi⟩
  · obtain ⟨kind, _, rfl⟩ := List.mem_map.mp hi
    rfl
  · obtain ⟨kind, _, rfl⟩ := List.mem_map.mp hi
    rfl

/-- The issues of a group that are about one of its rows are those of the condition there. -/
theorem filter_issues {g : Group} {c : Condition} {row : Nat} (place : Nat)
    (hrow : g.rows[row]? = some c) :
    (g.issues place).filter (fun i => i.group = place ∧ i.row = some row) =
      c.issues.map (Issue.mk place (some row)) := by
  have hown : (g.ownIssues.map (Issue.mk place none)).filter
      (fun i => i.group = place ∧ i.row = some row) = [] := by
    rw [filter_map_issue, if_neg (by simp)]
  have helsewhere : ∀ (c : Condition) (n : Nat), n ≠ row →
      (c.issues.map (Issue.mk place (some n))).filter
        (fun i => i.group = place ∧ i.row = some row) = [] := by
    intro c n hn
    rw [filter_map_issue, if_neg (by simpa using hn)]
  have hat := flatMap_zipIdx_of_place row helsewhere (Nat.zero_add row).symm hrow
  rw [issues, List.filter_append, hown, List.nil_append, List.filter_flatMap, hat,
    filter_map_issue, if_pos ⟨rfl, rfl⟩]

end Group

/-- The report says of a row what validation says of its condition. -/
theorem Ruleset.rowIssues_eq {r : Ruleset} {g : Group} {c : Condition} {place row : Nat}
    (hplace : r[place]? = some g) (hrow : g.rows[row]? = some c) :
    r.rowIssues place row = c.issues := by
  have helsewhere : ∀ (g : Group) (n : Nat), n ≠ place →
      (g.issues n).filter (fun i => i.group = place ∧ i.row = some row) = [] := by
    intro g n hn
    rw [List.filter_eq_nil_iff]
    intro i hi
    rw [Group.group_of_mem_issues hi]
    simp [hn]
  have hat := flatMap_zipIdx_of_place place helsewhere (Nat.zero_add place).symm hplace
  rw [rowIssues, issues, List.filter_flatMap, hat, Group.filter_issues place hrow, List.map_map]
  exact List.map_id _

/-- What is reported first for a row is an issue of the ruleset at that row. -/
theorem Ruleset.exists_issue_of_firstError? {r : Ruleset} {place row : Nat} {kind : IssueKind}
    (h : firstError? (r.rowIssues place row) = some kind) :
    ∃ i ∈ r.issues, i.group = place ∧ i.row = some row ∧ i.isError = true := by
  have hmem : kind ∈ r.rowIssues place row := List.mem_of_find?_eq_some h
  have herror : kind.severity = .error := by simpa using List.find?_some h
  obtain ⟨i, hi, rfl⟩ := List.mem_map.mp hmem
  obtain ⟨hissue, hplace⟩ := List.mem_filter.mp hi
  obtain ⟨hgroup, hrow⟩ := of_decide_eq_true hplace
  exact ⟨i, hissue, hgroup, hrow, decide_eq_true herror⟩

/-! ### The first error of a condition -/

/-- A test refuses only attributes that are no numbers. -/
theorem Comparison.test_error {comparison : Comparison} {a : Attribute} {reason : Refusal}
    (h : comparison.test a = .error reason) : reason = .nonNumericValue a.shown := by
  have hnumber : ∀ f : Binary64 → Bool, (numberOf a).map f = .error reason →
      reason = .nonNumericValue a.shown := by
    intro f hf
    unfold numberOf at hf
    cases ha : a.number? with
    | some x => rw [ha] at hf; cases hf
    | none => rw [ha] at hf; cases hf; rfl
  cases comparison with
  | equals | notEquals | includes => cases h
  | lessThan | greaterThan | between => exact hnumber _ h

/-- Reading refuses a value exactly where validation has an issue for it. -/
theorem valueIssue?_of_read (operator : Operator) (value : String) :
    match Comparison.read operator value with
    | .ok _ => valueIssue? operator value = none
    | .error reason => ∃ kind, valueIssue? operator value = some kind ∧
        kind.severity = .error ∧ kind.refusal? = some reason := by
  unfold valueIssue?
  -- `equals`, `notEquals` and `includes` read any text, and are done here
  cases operator <;> simp only [Comparison.read]
  case lessThan | greaterThan =>
    cases numberOfText? value with
    | some x => rfl
    | none => exact ⟨_, rfl, rfl, rfl⟩
  case between =>
    cases rangeOfText? value with
    | some range => rfl
    | none => exact ⟨_, rfl, rfl, rfl⟩

/-- The warning about an option is no error. -/
theorem firstError?_optionIssue? (field : Field) (operator : Operator) (value : String) :
    firstError? (optionIssue? field operator value).toList = none := by
  unfold optionIssue?
  split_ifs <;> rfl

namespace Condition

variable {c : Condition}

theorem firstError?_of_question_ok {asked : Field × Comparison} (h : c.question = .ok asked) :
    firstError? c.issues = none := by
  obtain ⟨f, comparison⟩ := asked
  obtain ⟨operator, target, rfl, hread⟩ := question_ok h
  have hvalue := valueIssue?_of_read operator target
  rw [hread] at hvalue
  simp only [issues, hvalue, List.nil_append, Option.toList_none]
  exact firstError?_optionIssue? f operator target

theorem firstError?_of_question_error {reason : Refusal} (h : c.question = .error reason) :
    ∃ kind, firstError? c.issues = some kind ∧ kind.refusal? = some reason := by
  rcases c with ⟨field | raw, operator | raw, target | json⟩
  case known.known.text =>
    have hvalue := valueIssue?_of_read operator target
    cases hread : Comparison.read operator target with
    | ok _ => simp only [question, hread] at h; cases h
    | error _ =>
      simp only [question, hread] at h
      cases h
      rw [hread] at hvalue
      obtain ⟨kind, hkind, herror, hreason⟩ := hvalue
      refine ⟨kind, ?_, hreason⟩
      simp [issues, hkind, firstError?, herror]
  all_goals
    cases h
    exact ⟨_, rfl, rfl⟩

end Condition

/-! ### Rows and their checks -/

/-- A condition that asks something is decided for everybody who supplies a value, unless that
value is no number. -/
theorem Condition.check_of_question_ok {c : Condition} {p : Profile} {today : Date}
    {asked : Field × Comparison} (h : c.question = .ok asked) (hs : c.SuppliedBy p today) :
    c.check p today = .satisfied ∨ c.check p today = .unsatisfied ∨
      ∃ shown, c.check p today = .refused (.nonNumericValue shown) := by
  obtain ⟨f, comparison⟩ := asked
  obtain ⟨operator, target, hc, _⟩ := question_ok h
  obtain ⟨a, ha⟩ := hs f (by rw [hc])
  rw [check_of_attribute h ha]
  cases htest : comparison.test a with
  | error reason =>
    rw [Comparison.test_error htest]
    exact Or.inr (Or.inr ⟨a.shown, rfl⟩)
  | ok holds =>
    cases holds with
    | true => exact Or.inl rfl
    | false => exact Or.inr (Or.inl rfl)

/-- Validation and checking agree on every row. The first error reported for a row is the reason
for which it is refused for everybody who supplies its field, and whoever does not is refused too.
A row without a reported error is refused to suppliers only over a value that is no number. -/
theorem check_agrees_with_report {r : Ruleset} {g : Group} {c : Condition} {place row : Nat}
    (hplace : r[place]? = some g) (hrow : g.rows[row]? = some c) :
    (∀ kind, firstError? (r.rowIssues place row) = some kind →
      (∃ reason, kind.refusal? = some reason ∧
        ∀ p today, c.SuppliedBy p today → c.check p today = .refused reason) ∧
      ∀ p today, ∃ why, c.check p today = .refused why) ∧
    (firstError? (r.rowIssues place row) = none →
      ∀ p today, c.SuppliedBy p today →
        c.check p today = .satisfied ∨ c.check p today = .unsatisfied ∨
          ∃ shown, c.check p today = .refused (.nonNumericValue shown)) := by
  rw [Ruleset.rowIssues_eq hplace hrow]
  cases hc : c.question with
  | error reason =>
    obtain ⟨kind, hkind, hreason⟩ := Condition.firstError?_of_question_error hc
    rw [hkind]
    refine ⟨?_, fun h => by cases h⟩
    intro kind' hkind'
    cases hkind'
    exact ⟨⟨reason, hreason, fun p today hs => Condition.check_of_question_error hc hs⟩,
      Condition.exists_refused_of_question_error hc⟩
  | ok asked =>
    rw [Condition.firstError?_of_question_ok hc]
    refine ⟨fun kind h => (by cases h), ?_⟩
    intro _ p today hs
    exact Condition.check_of_question_ok hc hs

theorem misspelt_range_is_refused :
    let c : Condition := ⟨.known .marksPercentage, .known .between, .text "40 to 60"⟩
    let rules : Ruleset := [.anyOf [⟨.known .state, .known .equals, .text "Kerala"⟩, c]]
    let p : Profile := { id := "p-1", marksPercentage := some Binary64.zero }
    let today : Date := ⟨2024, 6, 15, by decide, by decide, by decide⟩
    c.SuppliedBy p today ∧ firstError? (rules.rowIssues 0 1) = some (.malformedRange "40 to 60") ∧
      c.check p today = .refused (.malformedRange "40 to 60") := by
  intro c rules p today
  have hplace : rules[0]? = some (.anyOf [⟨.known .state, .known .equals, .text "Kerala"⟩, c]) :=
    rfl
  have hs : c.SuppliedBy p today := by
    intro f hf
    cases hf
    exact ⟨_, rfl⟩
  have hfirst : firstError? (rules.rowIssues 0 1) = some (.malformedRange "40 to 60") := by
    decide +kernel
  obtain ⟨⟨reason, hreason, hchecks⟩, _⟩ := (check_agrees_with_report hplace rfl).1 _ hfirst
  cases hreason
  exact ⟨hs, hfirst, hchecks p today hs⟩

end Entitlement
