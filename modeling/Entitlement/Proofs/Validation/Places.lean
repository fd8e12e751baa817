import Entitlement.Proofs.Service.Publishing
import Entitlement.Proofs.Validation.Rows
import Mathlib.Data.List.Pairwise
import Mathlib.Data.Nat.Basic

/-!
# Where issues are reported

The report goes through a ruleset group by group, and through a group row by row. So it is ordered by
place, every place is one of the ruleset, and rulesets that are put one behind the other are
reported on as each of them is, with the later groups moved on. What is said at a row comes from
the condition there alone. A report without errors means that every group and row can be read.
-/

namespace Entitlement

/-! ### Places -/

/-- Holds when the first issue may stand in a report before the second one: its group comes first,
or it is about the same group, either as a whole or about a row that does not come later. -/
def Issue.Precedes (i j : Issue) : Prop :=
  i.group < j.group ∨
    i.group = j.group ∧ ∀ row, i.row = some row → ∃ later, j.row = some later ∧ row ≤ later

/-- The issue with its group the given number of groups further on. -/
def Issue.movedOn (n : Nat) (i : Issue) : Issue :=
  { i with group := n + i.group }

/-- Places in a list ascend. -/
theorem pairwise_zipIdx {α : Type} (xs : List α) : xs.zipIdx.Pairwise fun x y => x.2 < y.2 := by
  rw [← List.pairwise_map, List.zipIdx_map_snd]
  exact List.pairwise_lt_range'

namespace Group

variable {g : Group} {place : Nat} {i : Issue}

/-- An issue of a group is about the group as a whole, or about one of its rows. -/
theorem mem_issues_iff : i ∈ g.issues place ↔ i.group = place ∧
    ((i.row = none ∧ i.kind ∈ g.ownIssues) ∨
      ∃ row c, i.row = some row ∧ g.rows[row]? = some c ∧ i.kind ∈ c.issues) := by
  rw [issues, List.mem_append, List.mem_map, List.mem_flatMap]
  constructor
  · rintro (⟨kind, hkind, rfl⟩ | ⟨⟨c, row⟩, hrow, hi⟩)
    · exact ⟨rfl, Or.inl ⟨rfl, hkind⟩⟩
    · obtain ⟨kind, hkind, rfl⟩ := List.mem_map.mp hi
      exact ⟨rfl, Or.inr ⟨row, c, rfl, List.mem_zipIdx_iff_getElem?.mp hrow, hkind⟩⟩
  · obtain ⟨group, spot, kind⟩ := i
    rintro ⟨rfl, ⟨rfl, hkind⟩ | ⟨row, c, rfl, hrow, hkind⟩⟩
    · exact Or.inl ⟨kind, hkind, rfl⟩
    · exact Or.inr ⟨(c, row), List.mem_zipIdx_iff_getElem?.mpr hrow,
        List.mem_map.mpr ⟨kind, hkind, rfl⟩⟩

/-- A group further on is reported on as it is here. -/
theorem issues_add (g : Group) (n place : Nat) :
    g.issues (n + place) = (g.issues place).map (Issue.movedOn n) := by
  rw [issues, issues, List.map_append, List.map_map, List.map_flatMap]
  simp only [List.map_map]
  rfl

theorem issues_ordered (g : Group) (place : Nat) : (g.issues place).Pairwise Issue.Precedes := by
  have hrow (kinds : List IssueKind) (spot : Option Nat) :
      (kinds.map (Issue.mk place spot)).Pairwise Issue.Precedes := by
    rw [List.pairwise_map]
    exact List.pairwise_of_forall fun _ _ => Or.inr ⟨rfl, fun row hrow => ⟨row, hrow, le_rfl⟩⟩
  rw [issues, List.pairwise_append, List.pairwise_flatMap]
  refine ⟨hrow _ none, ⟨fun x _ => hrow _ _, ?_⟩, ?_⟩
  -- of two rows the first comes first
  · refine (pairwise_zipIdx g.rows).imp fun {x y} hxy i hi j hj => ?_
    obtain ⟨_, _, rfl⟩ := List.mem_map.mp hi
    obtain ⟨_, _, rfl⟩ := List.mem_map.mp hj
    refine Or.inr ⟨rfl, fun row hx => ⟨y.2, rfl, ?_⟩⟩
    cases hx
    exact hxy.le
  -- what is said of the whole group comes before its rows
  · intro i hi j hj
    obtain ⟨_, _, rfl⟩ := List.mem_map.mp hi
    obtain ⟨y, _, hj⟩ := List.mem_flatMap.mp hj
    obtain ⟨_, _, rfl⟩ := List.mem_map.mp hj
    exact Or.inr ⟨rfl, by rintro row ⟨⟩⟩

end Group

namespace Ruleset

variable {r : Ruleset} {i : Issue}

theorem mem_issues_iff : i ∈ r.issues ↔ ∃ g, r[i.group]? = some g ∧ i ∈ g.issues i.group := by
  rw [issues, List.mem_flatMap]
  constructor
  · rintro ⟨⟨g, place⟩, hplace, hi⟩
    obtain rfl := Group.group_of_mem_issues hi
    exact ⟨g, List.mem_zipIdx_iff_getElem?.mp hplace, hi⟩
  · rintro ⟨g, hplace, hi⟩
    exact ⟨(g, i.group), List.mem_zipIdx_iff_getElem?.mpr hplace, hi⟩

/-- Every issue is about a group of the ruleset, and about a row of that group if about any. -/
theorem exists_place_of_mem_issues (hi : i ∈ r.issues) :
    ∃ g, r[i.group]? = some g ∧ ∀ row, i.row = some row → row < g.rows.length := by
  obtain ⟨g, hplace, hi⟩ := mem_issues_iff.mp hi
  refine ⟨g, hplace, fun row hrow => ?_⟩
  obtain ⟨-, ⟨hnone, -⟩ | ⟨row', c, hsome, hc, -⟩⟩ := Group.mem_issues_iff.mp hi
  · rw [hnone] at hrow
    cases hrow
  · rw [hsome] at hrow
    cases hrow
    exact (List.getElem?_eq_some_iff.mp hc).1

theorem issues_ordered (r : Ruleset) : r.issues.Pairwise Issue.Precedes := by
  rw [issues, List.pairwise_flatMap]
  refine ⟨fun x _ => x.1.issues_ordered x.2, ?_⟩
  refine (pairwise_zipIdx r).imp fun {x y} hxy i hi j hj => Or.inl ?_
  rw [Group.group_of_mem_issues hi, Group.group_of_mem_issues hj]
  exact hxy

/-- Of two rulesets, one behind the other, each is reported on as it is alone. -/
theorem issues_append (r more : Ruleset) :
    Ruleset.issues (r ++ more) = r.issues ++ more.issues.map (Issue.movedOn r.length) := by
  have hmoved : (more.zipIdx r.length).flatMap (fun x => x.1.issues x.2) =
      more.issues.map (Issue.movedOn r.length) := by
    rw [List.zipIdx_eq_map_add, List.flatMap_map, issues, List.map_flatMap]
    simp only [Group.issues_add]
  rw [issues, List.zipIdx_append, List.flatMap_append, Nat.zero_add, hmoved]
  rfl

end Ruleset

/-! ### Reports without errors -/

/-- Holds of a row that can be read: its field and operator are recognized, and its value is a text
that the operator can read. -/
def Condition.WellFormed (c : Condition) : Prop :=
  ∃ field operator raw comparison, c = ⟨.known field, .known operator, .text raw⟩ ∧
    Comparison.read operator raw = .ok comparison

/-- Holds of a group that can be read. -/
structure Group.WellFormed (g : Group) : Prop where
  joiner : ∃ joiner, g.joiner = .known joiner
  rows_ne_nil : g.rows ≠ []
  rows : ∀ c ∈ g.rows, c.WellFormed

/-- A row can be read just if it asks something. -/
theorem Condition.wellFormed_iff {c : Condition} :
    c.WellFormed ↔ ∃ asked, c.question = .ok asked := by
  constructor
  · rintro ⟨field, operator, raw, comparison, rfl, hread⟩
    exact ⟨(field, comparison), by rw [question]; simp only [hread]⟩
  · rintro ⟨⟨field, comparison⟩, hasked⟩
    obtain ⟨operator, raw, hc, hread⟩ := question_ok hasked
    exact ⟨field, operator, raw, comparison, hc, hread⟩

theorem Condition.forall_issues_iff {c : Condition} :
    (∀ kind ∈ c.issues, kind.severity ≠ .error) ↔ c.WellFormed := by
  have hfirst : (∀ kind ∈ c.issues, kind.severity ≠ .error) ↔ firstError? c.issues = none := by
    simp [firstError?, List.find?_eq_none]
  rw [hfirst, wellFormed_iff]
  cases hc : c.question with
  | ok asked => exact iff_of_true (firstError?_of_question_ok hc) ⟨asked, rfl⟩
  | error reason =>
    obtain ⟨kind, hkind, -⟩ := firstError?_of_question_error hc
    rw [hkind]
    exact iff_of_false (by rintro ⟨⟩) (by rintro ⟨_, ⟨⟩⟩)

theorem Group.forall_ownIssues_iff {g : Group} :
    (∀ kind ∈ g.ownIssues, kind.severity ≠ .error) ↔
      (∃ joiner, g.joiner = .known joiner) ∧ g.rows ≠ [] := by
  obtain ⟨joiner | raw, _ | ⟨c, rows⟩⟩ := g <;> simp [ownIssues, IssueKind.severity]

/-- A ruleset has no errors just if all of it can be read. -/
theorem Ruleset.clean_iff {r : Ruleset} : r.Clean ↔ ∀ g ∈ r, g.WellFormed := by
  have herror {i : Issue} : i.isError = false ↔ i.kind.severity ≠ .error := decide_eq_false_iff_not
  simp only [Clean, mem_issues_iff, herror]
  constructor
  · intro hclean g hg
    obtain ⟨place, hplace⟩ := List.mem_iff_getElem?.mp hg
    have hgroup (spot : Option Nat) (kind : IssueKind)
        (hi : ⟨place, spot, kind⟩ ∈ g.issues place) : kind.severity ≠ .error :=
      hclean ⟨place, spot, kind⟩ ⟨g, hplace, hi⟩
    have hown : ∀ kind ∈ g.ownIssues, kind.severity ≠ .error := fun kind hkind =>
      hgroup none kind (Group.mem_issues_iff.mpr ⟨rfl, Or.inl ⟨rfl, hkind⟩⟩)
    obtain ⟨hjoiner, hrows⟩ := Group.forall_ownIssues_iff.mp hown
    refine ⟨hjoiner, hrows, fun c hc => Condition.forall_issues_iff.mp fun kind hkind => ?_⟩
    obtain ⟨row, hrow⟩ := List.mem_iff_getElem?.mp hc
    exact hgroup (some row) kind
      (Group.mem_issues_iff.mpr ⟨rfl, Or.inr ⟨row, c, rfl, hrow, hkind⟩⟩)
  · rintro hread i ⟨g, hplace, hi⟩
    have hg := hread g (List.mem_of_getElem? hplace)
    obtain ⟨-, ⟨-, hkind⟩ | ⟨row, c, -, hrow, hkind⟩⟩ := Group.mem_issues_iff.mp hi
    · exact Group.forall_ownIssues_iff.mpr ⟨hg.joiner, hg.rows_ne_nil⟩ _ hkind
    · exact Condition.forall_issues_iff.mpr (hg.rows c (List.mem_of_getElem? hrow)) _ hkind

/-! ### The report -/

/-- The report names places of the ruleset, in their order, and says at a row what is to be said of
the condition there. Rulesets one behind the other are reported on as each of them is, with the
later groups moved on. There is no error just if every group has a joiner that is recognized and at
least one row, and every row can be read. -/
theorem report_goes_place_by_place (r : Ruleset) :
    (∀ i ∈ r.issues, ∃ g, r[i.group]? = some g ∧
      ∀ row, i.row = some row → row < g.rows.length) ∧
    r.issues.Pairwise Issue.Precedes ∧
    (∀ (place row : Nat) (g : Group) (c : Condition), r[place]? = some g →
      g.rows[row]? = some c → r.rowIssues place row = c.issues) ∧
    (∀ more : Ruleset, Ruleset.issues (r ++ more) =
      r.issues ++ more.issues.map fun i => { i with group := r.length + i.group }) ∧
    ((∀ i ∈ r.issues, i.isError = false) ↔ ∀ g ∈ r,
      (∃ joiner, g.joiner = .known joiner) ∧ g.rows ≠ [] ∧
      ∀ c ∈ g.rows, ∃ field operator raw comparison,
        c = ⟨.known field, .known operator, .text raw⟩ ∧
          Comparison.read operator raw = .ok comparison) := by
  refine ⟨fun i hi => Ruleset.exists_place_of_mem_issues hi, r.issues_ordered,
    fun place row g c hplace hrow => Ruleset.rowIssues_eq hplace hrow, r.issues_append, ?_⟩
  refine Ruleset.clean_iff.trans (forall₂_congr fun g _ => ⟨fun h => ?_, fun h => ?_⟩)
  · exact ⟨h.joiner, h.rows_ne_nil, h.rows⟩
  · exact ⟨h.1, h.2.1, h.2.2⟩

/-- A group with an unrecognized joiner and one faulty row, and behind it a group without rows. -/
theorem report_on_two_faulty_groups :
    let sound : Condition := ⟨.known .state, .known .equals, .text "Kerala"⟩
    let faulty : Condition := ⟨.unrecognized "Colour", .known .between, .text "40 to 60"⟩
    let rules : Ruleset := [⟨.unrecognized "XOR", [sound, faulty]⟩]
    let more : Ruleset := [.anyOf []]
    rules.rowIssues 0 0 = [] ∧
      rules.rowIssues 0 1 = [.unrecognizedField "Colour", .malformedRange "40 to 60"] ∧
      Ruleset.issues (rules ++ more) =
        [⟨0, none, .unrecognizedJoiner "XOR"⟩, ⟨0, some 1, .unrecognizedField "Colour"⟩,
          ⟨0, some 1, .malformedRange "40 to 60"⟩, ⟨1, none, .emptyGroup⟩] ∧
      ∀ i ∈ rules.issues, i.group = 0 ∧ ∀ row, i.row = some row → row < 2 := by
  intro sound faulty rules more
  obtain ⟨hplaces, -, hrows, happend, -⟩ := report_goes_place_by_place rules
  have hrules : rules.issues = [⟨0, none, .unrecognizedJoiner "XOR"⟩,
      ⟨0, some 1, .unrecognizedField "Colour"⟩, ⟨0, some 1, .malformedRange "40 to 60"⟩] := by
    decide +kernel
  refine ⟨hrows 0 0 _ sound rfl rfl, ?_, ?_, fun i hi => ?_⟩
  · rw [hrows 0 1 _ faulty rfl rfl]
    decide +kernel
  · rw [happend more, hrules]
    rfl
  · obtain ⟨g, hg, hrow⟩ := hplaces i hi
    rw [hrules] at hi
    simp only [List.mem_cons, List.not_mem_nil, or_false] at hi
    have hgroup : i.group = 0 := by
      rcases hi with rfl | rfl | rfl <;> rfl
    rw [hgroup] at hg
    cases hg
    exact ⟨hgroup, hrow⟩

end Entitlement
