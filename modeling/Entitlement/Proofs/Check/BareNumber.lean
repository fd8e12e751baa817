import Entitlement.Proofs.Check.Condition
import Entitlement.Proofs.Json.Number
import Entitlement.Proofs.Rule.Codec

/-!
# Bare numbers in rules

A rule value that is a JSON number is kept as the text that JSON writes for it, and compared with
the plain text of the number of a profile. So a profile is not equal to the very number that its
record and the rule were both given, unless that number is written in JSON as it is shown.
-/

namespace Entitlement

open Json

/-- Holds of the record of a profile that gives a number for a field of numbers. -/
def Json.SuppliesNumber (v : Json) (n : Number) : Field → Prop
  | .annualIncome => v.field? "annualIncome" 2 = some (.number n)
  | .marksPercentage => v.field? "marksPercentage" 12 = some (.number n)
  | _ => False

/-! ### Numbers of a profile -/

theorem number_of_member {members : List (String × Json)} {key : String} {n : Number}
    {found : Option Binary64} (hmember : members.lookup key = some (.number n))
    (h : Option.join <$> readMember members key (readOptional readNumber) = .ok found) :
    found = some n.toBinary64 := by
  have hread : readOptional readNumber (.number n) = .ok (some n.toBinary64) := rfl
  rw [readMember_of_lookup hmember hread] at h
  cases h
  rfl

theorem number_of_item {shape : String} {vs : List Json} {i : Nat} {n : Number}
    {found : Option Binary64} (hitem : vs[i]? = some (.number n))
    (h : readItem shape vs i (readOptional readNumber) = .ok found) :
    found = some n.toBinary64 := by
  rw [readItem, hitem] at h
  cases h
  rfl

/-- A profile that was read has the numbers of its record. -/
theorem Profile.attribute?_of_suppliesNumber {v : Json} {p : Profile} {n : Number} {field : Field}
    (hp : Profile.ofJson v = .ok p) (hsupplied : v.SuppliesNumber n field) (today : Date) :
    p.attribute? today field = some (.number n.toBinary64) := by
  cases v with
  | object members =>
    simp only [ofJson, bind_eq_ok_iff] at hp
    obtain ⟨_, _, income, hincome, _, _, _, _, _, _, _, _, _, _, _, _, _, _, marks, hmarks, _, _, _,
      _, _, _, h⟩ := hp
    cases h
    cases field with
    | annualIncome => rw [attribute?, number_of_member hsupplied hincome, Option.map_some]
    | marksPercentage => rw [attribute?, number_of_member hsupplied hmarks, Option.map_some]
    | _ => cases hsupplied
  | array vs =>
    simp only [ofJson, bind_eq_ok_iff] at hp
    obtain ⟨_, _, _, _, income, hincome, _, _, _, _, _, _, _, _, _, _, _, _, _, _, _, _, _, _, marks,
      hmarks, _, _, h⟩ := hp
    cases h
    cases field with
    | annualIncome => rw [attribute?, number_of_item hsupplied hincome, Option.map_some]
    | marksPercentage => rw [attribute?, number_of_item hsupplied hmarks, Option.map_some]
    | _ => cases hsupplied
  | null | bool | number | text => cases hp

/-! ### Rows -/

/-- A profile and a rule that were given one number, for a field of numbers, are compared without
a refusal. The row asks for equality in vain, and for its opposite with success, unless the number
is written in JSON as it is shown, which all integers below 2^53 are. -/
theorem bare_number_is_equal_iff {t : Numeral} {n : Number} (ht : t.toNumber? = some n)
    {v w : Json} {p : Profile} {c : Condition} {field : Field} (hp : Profile.ofJson v = .ok p)
    (hc : Condition.ofJson w = .ok c) (hsupplied : v.SuppliesNumber n field)
    (hvalue : w.field? "value" 2 = some (.number n)) (hfield : c.field = .known field)
    (today : Date) :
    (c.operator = .known .equals →
      (c.check p today = .satisfied ↔ n.WrittenAsShown) ∧
      (c.check p today = .unsatisfied ↔ ¬ n.WrittenAsShown)) ∧
    (c.operator = .known .notEquals →
      (c.check p today = .unsatisfied ↔ n.WrittenAsShown) ∧
      (c.check p today = .satisfied ↔ ¬ n.WrittenAsShown)) ∧
    ∀ k : Int, n = .integer k → k.natAbs < 2 ^ 53 → n.WrittenAsShown := by
  have ha := Profile.attribute?_of_suppliesNumber hp hsupplied today
  have hvalue : c.value = .text n.text := by
    obtain ⟨-, -, u, hu, hread⟩ := Condition.parts_of_ofJson hc
    rw [hvalue] at hu
    cases hu
    exact hread
  have hsame : Text.lowered (Attribute.number n.toBinary64).shown = Text.lowered n.text ↔
      n.WrittenAsShown := by
    rw [Attribute.shown, Binary64.lowered_plainText, Number.lowered_text, eq_comm,
      Number.text_eq_plainText_iff ht]
  refine ⟨fun hoperator => ?_, fun hoperator => ?_, ?_⟩
  · have hcheck := Condition.check_equals (t := n.text) ha
    rw [← hfield, ← hoperator, ← hvalue] at hcheck
    rw [hcheck, ← hsame]
    split_ifs with h <;> simp [h]
  · have hcheck := Condition.check_notEquals (t := n.text) ha
    rw [← hfield, ← hoperator, ← hvalue] at hcheck
    rw [hcheck, ← hsame]
    split_ifs with h <;> simp [h]
  · rintro k rfl hk
    exact Number.writtenAsShown_of_lt hk

/-- An income of 19.5 equals the 19.5 of a rule. -/
theorem income_with_a_fraction_is_equal :
    let t : Numeral := ⟨false, ['1', '9'], some ['5'], none⟩
    let x : Binary64 := ⟨false, 0x4033800000000000, by decide⟩
    let v : Json := .object [("annualIncome", .number (.real x)), ("id", .text "p-1")]
    let w : Json := .object [("field", .text "Annual Income"), ("operator", .text "Equals"),
      ("value", .number (.real x))]
    let p : Profile := { id := "p-1", annualIncome := some x }
    let c : Condition := ⟨.known .annualIncome, .known .equals, .text "19.5"⟩
    t.toNumber? = some (.real x) ∧ Profile.ofJson v = .ok p ∧ Condition.ofJson w = .ok c ∧
      c.check p .last = .satisfied := by
  intro t x v w p c
  have ht : t.toNumber? = some (.real x) := by decide +kernel
  have hp : Profile.ofJson v = .ok p := rfl
  have hc : Condition.ofJson w = .ok c := by
    have htext : x.jsonText = "19.5" := by decide +kernel
    have hread : Condition.ofJson w =
      .ok ⟨.known .annualIncome, .known .equals, .text x.jsonText⟩ := rfl
    rw [hread, htext]
  have hsupplied : v.SuppliesNumber (.real x) .annualIncome := rfl
  have hvalue : w.field? "value" 2 = some (.number (.real x)) := rfl
  have hshown : (Number.real x).WrittenAsShown := by
    rw [Number.WrittenAsShown]
    decide +kernel
  obtain ⟨hequals, -, -⟩ := bare_number_is_equal_iff ht hp hc hsupplied hvalue rfl .last
  exact ⟨ht, hp, hc, (hequals rfl).1.mpr hshown⟩

/-- An income of 200000 does not equal the 200000.0 of a rule, though both were given the latter. -/
theorem income_with_a_zero_after_the_point_is_not_equal :
    let t : Numeral := ⟨false, "200000".toList, some ['0'], none⟩
    let x : Binary64 := ⟨false, 0x41086A0000000000, by decide⟩
    let v : Json := .object [("annualIncome", .number (.real x)), ("id", .text "p-1")]
    let w (operator : String) : Json := .object [("field", .text "Annual Income"),
      ("operator", .text operator), ("value", .number (.real x))]
    let p : Profile := { id := "p-1", annualIncome := some x }
    let c (operator : Operator) : Condition :=
      ⟨.known .annualIncome, .known operator, .text "200000.0"⟩
    t.toNumber? = some (.real x) ∧ Profile.ofJson v = .ok p ∧
      (Condition.ofJson (w "Equals") = .ok (c .equals) ∧ (c .equals).check p .last = .unsatisfied) ∧
      Condition.ofJson (w "Not Equals") = .ok (c .notEquals) ∧
        (c .notEquals).check p .last = .satisfied := by
  intro t x v w p c
  have htext : x.jsonText = "200000.0" := by decide +kernel
  have hequals : Condition.ofJson (w "Equals") = .ok (c .equals) := by
    have hread : Condition.ofJson (w "Equals") =
      .ok ⟨.known .annualIncome, .known .equals, .text x.jsonText⟩ := rfl
    rw [hread, htext]
  have hnotEquals : Condition.ofJson (w "Not Equals") = .ok (c .notEquals) := by
    have hread : Condition.ofJson (w "Not Equals") =
      .ok ⟨.known .annualIncome, .known .notEquals, .text x.jsonText⟩ := rfl
    rw [hread, htext]
  refine ⟨by decide +kernel, rfl, ⟨hequals, ?_⟩, hnotEquals, ?_⟩
  · decide +kernel
  · decide +kernel

end Entitlement
