import Entitlement.Proofs.Check.Supplied
import Entitlement.Proofs.Text.Lower
import Entitlement.Proofs.Validation.Rows

/-!
# Listed options

Validation warns of a value that is none of the options of its field, and looks at the value
without the blanks around it and without regard to the case of ASCII letters. A check compares the
whole value, in full lower case. The options are so plain that the two ways of comparing cases
agree on them. What is left are the blanks: a value with blanks around it passes as the option
between them, and nobody who holds an option satisfies it.
-/

namespace Entitlement

variable {field : Field} {s t option : String}

/-! ### Plain options -/

instance : DecidablePred Text.IsPlain :=
  fun _ => inferInstanceAs (Decidable (_ ∧ _))

/-- The lower cases of the options are plain, and no option has blanks around it. -/
theorem Field.plain_of_mem_options (field : Field) : ∀ option ∈ field.options,
    (∀ d ∈ option.toList.map Char.toLower, Text.IsPlain d) ∧
      Text.trim option.toList = option.toList := by
  have htable : ∀ option ∈ field.options,
      ((option.toList.map Char.toLower).all fun d => decide (Text.IsPlain d)) = true ∧
        Text.trim option.toList = option.toList := by
    cases field <;> decide +kernel
  intro option hmem
  obtain ⟨hplain, htrim⟩ := htable option hmem
  exact ⟨fun d hd => of_decide_eq_true (List.all_eq_true.mp hplain d hd), htrim⟩

/-- On options, full lower case and ASCII case come to the same. -/
theorem Field.sameIgnoringAsciiCase_iff (h : option ∈ field.options) :
    Text.sameIgnoringAsciiCase option t = true ↔ Text.lowered option = Text.lowered t := by
  have hplain := (field.plain_of_mem_options option h).1
  have hoption : Text.lower option.toList = option.toList.map Char.toLower :=
    (Text.lower_eq_iff hplain).mpr rfl
  rw [Text.sameIgnoringAsciiCase, beq_iff_eq, Text.lowered, Text.lowered, String.ofList_inj,
    hoption, eq_comm, eq_comm (b := Text.lower t.toList), Text.lower_eq_iff hplain]

/-! ### Rows that ask for an option -/

/-- Holds when somebody who holds a listed option of the field satisfies the row that asks for the
text. -/
def Field.MetByOption (field : Field) (t : String) : Prop :=
  ∃ option ∈ field.options, ∃ (p : Profile) (today : Date),
    p.attribute? today field = some (.text option) ∧
      (Condition.mk (.known field) (.known .equals) (.text t)).check p today = .satisfied

theorem Field.kind_of_mem_options (h : option ∈ field.options) : field.kind = .text := by
  cases field with
  | annualIncome | age | state | marksPercentage => exact absurd h List.not_mem_nil
  | category | educationLevel | gender | minorityStatus | disabilityStatus | institutionType => rfl

theorem Field.metByOption_iff :
    field.MetByOption t ↔
      ∃ option ∈ field.options, Text.sameIgnoringAsciiCase option t = true := by
  constructor
  · rintro ⟨option, hmem, p, today, ha, hcheck⟩
    rw [Condition.check_equals ha, Attribute.shown] at hcheck
    refine ⟨option, hmem, (sameIgnoringAsciiCase_iff hmem).mpr ?_⟩
    by_contra hne
    rw [if_neg hne] at hcheck
    cases hcheck
  · rintro ⟨option, hmem, hsame⟩
    have htakes : field.kind.Takes (.text option) := by
      rw [kind_of_mem_options hmem]
      exact ⟨option, rfl⟩
    obtain ⟨p, today, hp⟩ := exists_attribute?_iff.mpr htakes
    refine ⟨option, hmem, p, today, hp, ?_⟩
    rw [Condition.check_equals hp]
    exact if_pos ((sameIgnoringAsciiCase_iff hmem).mp hsame)

/-- Options have no blanks around them, and neither has what differs from one in case only. -/
theorem Field.trimmed_eq_of_metByOption (h : field.MetByOption t) : Text.trimmed t = t := by
  obtain ⟨option, hmem, hsame⟩ := metByOption_iff.mp h
  rw [Text.sameIgnoringAsciiCase, beq_iff_eq] at hsame
  have hoption := Text.trim_eq_self_iff_map_toLower.mpr (field.plain_of_mem_options option hmem).2
  rw [hsame] at hoption
  rw [Text.trimmed, Text.trim_eq_self_iff_map_toLower.mp hoption, String.ofList_toList]

/-! ### The warning -/

/-- A row that asks for a text has no other issue than the warning. -/
theorem Condition.issues_equals (field : Field) (t : String) :
    (Condition.mk (.known field) (.known .equals) (.text t)).issues =
      (optionIssue? field .equals t).toList :=
  rfl

theorem Field.unwarned_iff (hfield : field.options ≠ []) :
    (∀ f v, .unlistedValue f v ∉ (optionIssue? field .equals t).toList) ↔
      field.MetByOption (Text.trimmed t) := by
  have hopen : field.options.isEmpty = false := by
    rw [← Bool.not_eq_true, List.isEmpty_iff]
    exact hfield
  rw [metByOption_iff, optionIssue?, if_pos (Or.inl rfl), hopen, Bool.false_or, ← List.any_eq_true]
  split_ifs with hlisted
  · exact iff_of_true (fun _ _ => List.not_mem_nil) hlisted
  · exact iff_of_false (fun h => h field t (List.mem_singleton_self _)) hlisted

/-- A row that asks a field for a text is reported without a warning about its options just if the
text, freed from blanks around it, is met by somebody who holds an option. So the text as it stands
is met by such a person just if there is no warning and it has no blanks around it. -/
theorem option_warning_agrees_with_checks {r : Ruleset} {g : Group} {place row : Nat}
    (hplace : r[place]? = some g)
    (hrow : g.rows[row]? = some ⟨.known field, .known .equals, .text t⟩)
    (hfield : field.options ≠ []) :
    let unwarned := ∀ f v, .unlistedValue f v ∉ r.rowIssues place row
    (unwarned ↔ field.MetByOption (Text.trimmed t)) ∧
      (field.MetByOption t ↔ unwarned ∧ Text.trimmed t = t) := by
  intro unwarned
  have hunwarned : unwarned ↔ field.MetByOption (Text.trimmed t) := by
    rw [← Field.unwarned_iff hfield, ← Condition.issues_equals, ← Ruleset.rowIssues_eq hplace hrow]
  refine ⟨hunwarned, fun hmet => ?_, fun ⟨hquiet, htrim⟩ => ?_⟩
  · have htrim := Field.trimmed_eq_of_metByOption hmet
    exact ⟨hunwarned.mpr (htrim.symm ▸ hmet), htrim⟩
  · exact htrim ▸ hunwarned.mp hquiet

theorem option_in_another_case_is_met :
    let c : Condition := ⟨.known .category, .known .equals, .text "oBc"⟩
    let rules : Ruleset := [.allOf [c]]
    (∀ f v, .unlistedValue f v ∉ rules.rowIssues 0 0) ∧ Field.category.MetByOption "oBc" := by
  intro c rules
  have hplace : rules[0]? = some (.allOf [c]) := rfl
  have hrow : (Group.allOf [c]).rows[0]? = some c := rfl
  have hquiet : rules.rowIssues 0 0 = [] := by decide +kernel
  have hunwarned : ∀ f v, .unlistedValue f v ∉ rules.rowIssues 0 0 := by
    rw [hquiet]
    exact fun _ _ => List.not_mem_nil
  have htrim : Text.trimmed "oBc" = "oBc" := by decide +kernel
  obtain ⟨_, hmet⟩ := option_warning_agrees_with_checks hplace hrow (by decide)
  exact ⟨hunwarned, hmet.mpr ⟨hunwarned, htrim⟩⟩

/-- An option between blanks is reported without a warning, and nobody who holds an option satisfies
the row. -/
theorem option_between_blanks_is_not_met :
    let rules : Ruleset := [.allOf [⟨.known .category, .known .equals, .text " OBC "⟩]]
    (∀ f v, .unlistedValue f v ∉ rules.rowIssues 0 0) ∧ ¬ Field.category.MetByOption " OBC " := by
  intro rules
  have hquiet : rules.rowIssues 0 0 = [] := by decide +kernel
  refine ⟨?_, fun hmet => ?_⟩
  · rw [hquiet]
    exact fun _ _ => List.not_mem_nil
  · exact absurd (Field.trimmed_eq_of_metByOption hmet) (by decide +kernel)

end Entitlement
