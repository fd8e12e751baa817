import Entitlement.Proofs.Check.Group

/-!
# Equal and not equal

Of a value that a profile supplies, a row that asks for a text and one that asks for any other text
say the opposite. So a group that asks for all of the one kind passes just where the group that asks
for any of the other kind fails, as long as there are rows at all. Of a value that is not supplied
neither row holds.
-/

namespace Entitlement

variable {p : Profile} {today : Date}

/-- The rows that put one operator to each of some fields and texts. -/
def rowsWith (operator : Operator) (asked : List (Field × String)) : List Condition :=
  asked.map fun x => ⟨.known x.1, .known operator, .text x.2⟩

namespace Condition

theorem satisfied_notEquals_iff {f : Field} {t : String} (hf : (p.attribute? today f).isSome) :
    (Condition.mk (.known f) (.known .notEquals) (.text t)).check p today = .satisfied ↔
      ¬ (Condition.mk (.known f) (.known .equals) (.text t)).check p today = .satisfied := by
  obtain ⟨a, ha⟩ := Option.isSome_iff_exists.mp hf
  rw [check_notEquals ha, check_equals ha]
  split_ifs <;> simp

end Condition

namespace Group

variable {α : Type} {asked : List α} {row other : α → Condition}

/-- All of some rows hold just where not any of their opposites does. Without rows both groups
pass. -/
theorem passed_allOf_iff_of_opposite (hne : asked ≠ [])
    (h : ∀ x ∈ asked, (row x).check p today = .satisfied ↔ ¬ (other x).check p today = .satisfied) :
    ((allOf (asked.map row)).evaluate p today).passed = true ↔
      ((anyOf (asked.map other)).evaluate p today).passed = false := by
  have hall : (allOf (asked.map row)).Passes p today ↔
      ∀ x ∈ asked, (row x).check p today = .satisfied := List.forall_mem_map
  have hany : (anyOf (asked.map other)).Passes p today ↔
      ∃ x ∈ asked, (other x).check p today = .satisfied := by
    simp [Passes, anyOf, hne]
  rw [← Bool.not_eq_true, passed_iff, passed_iff, hall, hany, not_exists]
  exact forall_congr' fun x => by
    rw [not_and]
    exact forall_congr' (h x)

end Group

/-- Equal and not equal are dual on values that are supplied: all rows of the one operator hold just
where not any row of the other does, and the other way about. On a value that is not supplied no row
holds, whatever it compares with. -/
theorem equal_and_not_equal_are_dual (p : Profile) (today : Date) :
    (∀ asked : List (Field × String), asked ≠ [] →
      (∀ x ∈ asked, (p.attribute? today x.1).isSome) →
      (((Group.allOf (rowsWith .equals asked)).evaluate p today).passed = true ↔
        ((Group.anyOf (rowsWith .notEquals asked)).evaluate p today).passed = false) ∧
      (((Group.anyOf (rowsWith .equals asked)).evaluate p today).passed = true ↔
        ((Group.allOf (rowsWith .notEquals asked)).evaluate p today).passed = false)) ∧
    ∀ f, p.attribute? today f = none → ∀ value : RuleValue,
      (Condition.mk (.known f) (.known .equals) value).check p today ≠ .satisfied ∧
      (Condition.mk (.known f) (.known .notEquals) value).check p today ≠ .satisfied := by
  constructor
  · intro asked hne hsupplied
    have hopposite := fun x (hx : x ∈ asked) =>
      Condition.satisfied_notEquals_iff (t := x.2) (hsupplied x hx)
    constructor
    · exact Group.passed_allOf_iff_of_opposite hne fun x hx => iff_not_comm.mp (hopposite x hx)
    · have hnone : ((Group.allOf (rowsWith .notEquals asked)).evaluate p today).passed = true ↔
          ((Group.anyOf (rowsWith .equals asked)).evaluate p today).passed = false :=
        Group.passed_allOf_iff_of_opposite hne hopposite
      rw [← Bool.not_eq_false, ← hnone, Bool.not_eq_true]
  · intro f hf value
    exact ⟨Condition.not_satisfied_of_no_attribute hf .equals value,
      Condition.not_satisfied_of_no_attribute hf .notEquals value⟩

/-- Of two rows one is met, in another case; so not both are unmet, and not both are met. A third
field is not supplied. -/
theorem one_equal_and_one_not_equal :
    let p : Profile := { id := "p-1", state := some "Kerala", category := some "OBC" }
    let asked : List (Field × String) := [(.state, "KERALA"), (.category, "SC")]
    asked ≠ [] ∧ (∀ x ∈ asked, (p.attribute? .last x.1).isSome) ∧
      ((Group.anyOf (rowsWith .equals asked)).evaluate p .last).passed = true ∧
      ((Group.allOf (rowsWith .notEquals asked)).evaluate p .last).passed = false ∧
      ((Group.anyOf (rowsWith .notEquals asked)).evaluate p .last).passed = true ∧
      ((Group.allOf (rowsWith .equals asked)).evaluate p .last).passed = false ∧
      p.attribute? .last .gender = none ∧
      (Condition.mk (.known .gender) (.known .notEquals) (.text "Male")).check p .last ≠
        .satisfied := by
  intro p asked
  obtain ⟨hdual, habsent⟩ := equal_and_not_equal_are_dual p .last
  have hne : asked ≠ [] := List.cons_ne_nil _ _
  have hsupplied : ∀ x ∈ asked, (p.attribute? .last x.1).isSome := by
    intro x hx
    simp only [asked, List.mem_cons, List.not_mem_nil, or_false] at hx
    rcases hx with rfl | rfl <;> rfl
  obtain ⟨hall, hany⟩ := hdual asked hne hsupplied
  have hmet : ((Group.anyOf (rowsWith .equals asked)).evaluate p .last).passed = true := by
    decide +kernel
  have hunmet : ((Group.anyOf (rowsWith .notEquals asked)).evaluate p .last).passed = true := by
    decide +kernel
  have hnotAll : ((Group.allOf (rowsWith .equals asked)).evaluate p .last).passed = false := by
    rw [← Bool.not_eq_true, hall, hunmet]
    simp
  exact ⟨hne, hsupplied, hmet, hany.mp hmet, hunmet, hnotAll, rfl, (habsent .gender rfl _).2⟩

end Entitlement
