import Entitlement.Proofs.Calendar.Reading
import Entitlement.Proofs.Json.Compact
import Entitlement.Proofs.Rule.Codec
import Entitlement.Scheme

/-!
# Schemes read back

A scheme that was read is written and read back without loss. Its rules are in normal form and its
other fields have one written form each, of which the deadline has to be read as a date again and
the number of matches has to fit 64 bits. So a scheme can be stored and loaded any number of times:
after the first time it stays as it is.
-/

namespace Entitlement

open Json

/-- Holds of a scheme that is read back from what it is written as. -/
structure Scheme.Normal (s : Scheme) : Prop where
  conditions : ∀ g ∈ s.conditions, g.Normal
  totalMatches : s.totalMatches < 2 ^ 64

namespace Scheme

/-- The values of all rows of a scheme, as its JSON value holds them. -/
def storedValues (v : Json) : List Json :=
  (v.field? "conditions" 7).elim [] Ruleset.storedValues

/-! ### What was read is normal -/

/-- A scheme that was read has the rules of its record, or none. -/
theorem parts_of_ofJson {v : Json} {s : Scheme} (h : Scheme.ofJson v = .ok s) :
    (s.conditions = [] ∨
      ∃ w, v.field? "conditions" 7 = some w ∧ Ruleset.ofJson w = .ok s.conditions) ∧
    s.totalMatches < 2 ^ 64 := by
  cases v with
  | object members =>
    simp only [ofJson, bind_eq_ok_iff] at h
    obtain ⟨conditions, hconditions, _, _, _, _, _, _, _, _, _, _, _, _, _, _, _, _, total, htotal,
      _, _, _, _, _, _, h⟩ := h
    cases h
    constructor
    · cases conditions with
      | none => exact Or.inl rfl
      | some r => exact Or.inr (exists_member_of_readMember hconditions)
    · cases total with
      | none => exact Nat.two_pow_pos 64
      | some n =>
        obtain ⟨_, _, hn⟩ := exists_member_of_readMember htotal
        exact lt_of_readSize hn
  | array vs =>
    simp only [ofJson, bind_eq_ok_iff] at h
    obtain ⟨_, _, _, _, _, _, _, _, _, _, _, _, _, _, conditions, hconditions, _, _, total, htotal,
      _, _, h⟩ := h
    cases h
    refine ⟨readItemOr_eq_ok hconditions, ?_⟩
    rcases readItemOr_eq_ok htotal with rfl | ⟨_, _, hn⟩
    · exact Nat.two_pow_pos 64
    · exact lt_of_readSize hn
  | null | bool | number | text => cases h

theorem normal_of_ofJson {v : Json} {s : Scheme} (h : Scheme.ofJson v = .ok s)
    (hback : ∀ w ∈ storedValues v, w.isStructured → w.ReadsBack) : s.Normal := by
  obtain ⟨hconditions, htotal⟩ := parts_of_ofJson h
  refine ⟨?_, htotal⟩
  rcases hconditions with hnil | ⟨w, hw, hread⟩
  · rw [hnil]
    exact fun g hg => absurd hg List.not_mem_nil
  · rw [storedValues, hw, Option.elim_some] at hback
    exact Ruleset.normal_of_ofJson hread hback

/-! ### What is normal is read back -/

theorem status_name (status : SchemeStatus) :
    SchemeStatus.variants.lookup status.name = some status := by
  cases status <;> rfl

theorem readOptional_description (description : Option String) :
    readOptional readText ((description.map Json.text).getD .null) = .ok description := by
  cases description <;> rfl

theorem Normal.ofJson_toJson {s : Scheme} (h : s.Normal) : Scheme.ofJson s.toJson = .ok s := by
  have hdeadline : readDate (.text s.deadline.text) = .ok s.deadline := by
    rw [readDate, Date.readLoose_text]
    rfl
  have hdescription : Option.join <$>
      readMember [("description", (s.description.map Json.text).getD .null)] "description"
        (readOptional readText) = .ok s.description := by
    rw [readMember_of_lookup rfl (readOptional_description s.description)]
    rfl
  refine bind_eq_ok_iff.mpr
    ⟨_, readMember_of_lookup rfl (Ruleset.ofJson_toJson h.conditions), ?_⟩
  refine bind_eq_ok_iff.mpr ⟨_, readMember_of_lookup rfl hdeadline, ?_⟩
  refine bind_eq_ok_iff.mpr ⟨some s.department, readMember_of_lookup rfl rfl, ?_⟩
  refine bind_eq_ok_iff.mpr ⟨_, hdescription, ?_⟩
  refine bind_eq_ok_iff.mpr ⟨some s.id, readMember_of_lookup rfl rfl, ?_⟩
  refine bind_eq_ok_iff.mpr ⟨_, readMember_of_lookup rfl (readList_texts s.matchedProfiles), ?_⟩
  refine bind_eq_ok_iff.mpr ⟨some s.name, readMember_of_lookup rfl rfl, ?_⟩
  refine bind_eq_ok_iff.mpr ⟨some s.schemeType, readMember_of_lookup rfl rfl, ?_⟩
  refine bind_eq_ok_iff.mpr
    ⟨_, readMember_of_lookup rfl (readVariant_text (status_name s.status)), ?_⟩
  exact bind_eq_ok_iff.mpr ⟨_, readMember_of_lookup rfl (readSize_nat h.totalMatches), rfl⟩

end Scheme

/-- Rules and schemes that were read are read back from what they are written as, and then written
alike, when the arrays and objects that stand in place of rule values are read back from their
text. -/
theorem loaded_rules_and_schemes_read_back :
    (∀ (v : Json) (r : Ruleset), Ruleset.ofJson v = .ok r →
      (∀ w ∈ Ruleset.storedValues v, w.isStructured → Json.parse w.compact = .ok w) →
      Ruleset.ofJson (Ruleset.toJson r) = .ok r ∧
        ∀ again, Ruleset.ofJson (Ruleset.toJson r) = .ok again →
          Ruleset.toJson again = Ruleset.toJson r) ∧
    ∀ (v : Json) (s : Scheme), Scheme.ofJson v = .ok s →
      (∀ w ∈ Scheme.storedValues v, w.isStructured → Json.parse w.compact = .ok w) →
      Scheme.ofJson s.toJson = .ok s ∧
        ∀ again, Scheme.ofJson s.toJson = .ok again → again.toJson = s.toJson := by
  constructor
  · intro v r h hback
    have hread : Ruleset.ofJson (Ruleset.toJson r) = .ok r :=
      Ruleset.ofJson_toJson (Ruleset.normal_of_ofJson h hback)
    refine ⟨hread, fun again hagain => ?_⟩
    rw [Except.ok.inj (hread.symm.trans hagain)]
  · intro v s h hback
    have hread : Scheme.ofJson s.toJson = .ok s := (Scheme.normal_of_ofJson h hback).ofJson_toJson
    refine ⟨hread, fun again hagain => ?_⟩
    rw [Except.ok.inj (hread.symm.trans hagain)]

/-- A rule with blanks around its field, an operator that is none and a list for its value, and one
without names that has a number, where neither a joiner nor a status is given. -/
theorem a_carelessly_written_scheme_reads_back :
    let states : Json := .array [.text "Goa", .text "Kerala", .number (.integer 25)]
    let rules : Json := .array [.object [("rows", .array
      [.object [("field", .text " State "), ("operator", .text "Near"), ("value", states)],
        .array [.text "Age", .text "Less Than", .number (.integer 25)]])]]
    let v : Json := .object [("conditions", rules), ("deadline", .text " -4-2 - 29 "),
      ("description", .null), ("id", .text "s-1"), ("name", .text "Merit")]
    let r : Ruleset := [.allOf
      [⟨.known .state, .unrecognized "Near", .unsupported "[\"Goa\",\"Kerala\",25]"⟩,
        ⟨.known .age, .known .lessThan, .text "25"⟩]]
    let s : Scheme := { id := "s-1", name := "Merit", conditions := r,
                        deadline := ⟨-4, 2, 29, by decide, by decide, by decide⟩ }
    (∀ w ∈ Scheme.storedValues v, w.isStructured → Json.parse w.compact = .ok w) ∧
      Ruleset.ofJson rules = .ok r ∧ Ruleset.ofJson (Ruleset.toJson r) = .ok r ∧
      Scheme.ofJson v = .ok s ∧ Scheme.ofJson s.toJson = .ok s := by
  intro states rules v r s
  have hexact : Json.Exact Json.maxDepth states := by
    refine Json.Exact.array fun item hitem => ?_
    simp only [List.mem_cons, List.not_mem_nil, or_false] at hitem
    rcases hitem with rfl | rfl | rfl
    · exact Json.Exact.text _
    · exact Json.Exact.text _
    · exact Json.Exact.integer (by decide) (by decide)
  have hback : ∀ w ∈ [states, .number (.integer 25)], w.isStructured →
      Json.parse w.compact = .ok w := by
    intro w hw hstructured
    simp only [List.mem_cons, List.not_mem_nil, or_false] at hw
    rcases hw with rfl | rfl
    · exact Json.parse_compact hexact
    · cases hstructured
  have hrules : Ruleset.ofJson rules = .ok r := rfl
  have hscheme : Scheme.ofJson v = .ok s := rfl
  refine ⟨hback, hrules, ?_, hscheme, ?_⟩
  · exact (loaded_rules_and_schemes_read_back.1 rules r hrules hback).1
  · exact (loaded_rules_and_schemes_read_back.2 v s hscheme hback).1

/-- A list for which the hypothesis fails. Its real is read one unit below the nearest number, and
again when it is read back, so that the rule value changes. -/
example :
    (Json.parse "[0.9365927139502162]").map RuleValue.ofJson =
        .ok (.unsupported "[0.9365927139502161]") ∧
      RuleValue.ofJson (RuleValue.unsupported "[0.9365927139502161]").toJson =
        .unsupported "[0.936592713950216]" := by
  decide +kernel

end Entitlement
