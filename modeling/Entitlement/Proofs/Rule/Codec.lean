import Entitlement.Proofs.Json.Record
import Entitlement.Rule.Codec

/-!
# Rules read back

Reading rules loses the way they were written: blanks around labels, scalars that are no texts,
fields that were left to their defaults. What was read has none of that left, so it is in a normal
form, which is written and read back without loss. The JSON text of an array or object is all that
needs more: it has to be read as the value that it was made from.
-/

namespace Entitlement

open Json

/-! ### Terms -/

/-- A vocabulary whose labels are each recognized as the term that they belong to. -/
class LawfulVocabulary (α : Type) [Vocabulary α] : Prop where
  ofLabel?_label : ∀ t : α, Vocabulary.ofLabel? (label t) = some t

instance : LawfulVocabulary Field where
  ofLabel?_label t := by cases t <;> decide

instance : LawfulVocabulary Operator where
  ofLabel?_label t := by cases t <;> decide

instance : LawfulVocabulary Joiner where
  ofLabel?_label t := by cases t <;> decide

namespace Term

variable {α : Type} [Vocabulary α]

/-- Holds of a term that is read back from its text. -/
def Normal (t : Term α) : Prop :=
  Term.read t.text = t

theorem normal_known [LawfulVocabulary α] (t : α) : (known t).Normal := by
  rw [Normal, text, read, LawfulVocabulary.ofLabel?_label]

/-- A text that was no label is none when it is read again. -/
theorem normal_read [LawfulVocabulary α] (raw : String) : (read raw : Term α).Normal := by
  cases h : (Vocabulary.ofLabel? raw : Option α) with
  | some t =>
    rw [read, h]
    exact normal_known t
  | none => simp only [Normal, read, h, text]

theorem normal_of_ofJson [LawfulVocabulary α] {v : Json} {t : Term α}
    (h : Term.ofJson v = .ok t) : t.Normal := by
  obtain ⟨raw, _, rfl⟩ := map_eq_ok_iff.mp h
  exact normal_read raw

theorem Normal.ofJson_toJson {t : Term α} (h : t.Normal) : Term.ofJson t.toJson = .ok t :=
  congrArg Except.ok h

end Term

/-! ### Rule values -/

/-- Holds of arrays and objects. -/
def Json.isStructured : Json → Bool
  | .array _ | .object _ => true
  | _ => false

/-- Holds when the compact text of the value is read as the value. -/
def Json.ReadsBack (v : Json) : Prop :=
  Json.parse v.compact = .ok v

theorem RuleValue.ofJson_toJson_ofJson {v : Json} (h : v.isStructured → v.ReadsBack) :
    ofJson (ofJson v).toJson = ofJson v := by
  cases v with
  | null | bool | number | text => rfl
  | array vs =>
    have hparse : Json.parse (Json.array vs).compact = .ok (.array vs) := h rfl
    simp only [ofJson, toJson, hparse]
  | object members =>
    have hparse : Json.parse (Json.object members).compact = .ok (.object members) := h rfl
    simp only [ofJson, toJson, hparse]

/-! ### Conditions -/

/-- Holds of a condition each part of which is read back from what it is written as. -/
structure Condition.Normal (c : Condition) : Prop where
  field : c.field.Normal
  operator : c.operator.Normal
  value : RuleValue.ofJson c.value.toJson = c.value

/-- A condition that was read has the value of its record. -/
theorem Condition.parts_of_ofJson {v : Json} {c : Condition} (h : Condition.ofJson v = .ok c) :
    c.field.Normal ∧ c.operator.Normal ∧
      ∃ w, v.field? "value" 2 = some w ∧ c.value = RuleValue.ofJson w := by
  cases v with
  | object members =>
    obtain ⟨field, hfield, h⟩ := bind_eq_ok_iff.mp h
    obtain ⟨operator, hoperator, h⟩ := bind_eq_ok_iff.mp h
    obtain ⟨value, hvalue, h⟩ := bind_eq_ok_iff.mp h
    obtain ⟨f, hf, h⟩ := bind_eq_ok_iff.mp h
    obtain ⟨o, ho, h⟩ := bind_eq_ok_iff.mp h
    obtain ⟨x, hx, h⟩ := bind_eq_ok_iff.mp h
    cases h
    rw [required_eq_ok_iff] at hf ho hx
    subst hf ho hx
    obtain ⟨_, _, hf⟩ := exists_member_of_readMember hfield
    obtain ⟨_, _, ho⟩ := exists_member_of_readMember hoperator
    obtain ⟨w, hw, hx⟩ := exists_member_of_readMember hvalue
    exact ⟨Term.normal_of_ofJson hf, Term.normal_of_ofJson ho, w, hw, (Except.ok.inj hx).symm⟩
  | array vs =>
    obtain ⟨field, hfield, h⟩ := bind_eq_ok_iff.mp h
    obtain ⟨operator, hoperator, h⟩ := bind_eq_ok_iff.mp h
    obtain ⟨value, hvalue, h⟩ := bind_eq_ok_iff.mp h
    obtain ⟨_, _, h⟩ := bind_eq_ok_iff.mp h
    cases h
    obtain ⟨_, _, hf⟩ := exists_item_of_readItem hfield
    obtain ⟨_, _, ho⟩ := exists_item_of_readItem hoperator
    obtain ⟨w, hw, hx⟩ := exists_item_of_readItem hvalue
    exact ⟨Term.normal_of_ofJson hf, Term.normal_of_ofJson ho, w, hw, (Except.ok.inj hx).symm⟩
  | null | bool | number | text => cases h

theorem Condition.Normal.ofJson_toJson {c : Condition} (h : c.Normal) :
    Condition.ofJson c.toJson = .ok c := by
  have hvalue : (.ok ∘ RuleValue.ofJson : Reader RuleValue) c.value.toJson = .ok c.value :=
    congrArg Except.ok h.value
  refine bind_eq_ok_iff.mpr ⟨_, readMember_of_lookup rfl h.field.ofJson_toJson, ?_⟩
  refine bind_eq_ok_iff.mpr ⟨_, readMember_of_lookup rfl h.operator.ofJson_toJson, ?_⟩
  exact bind_eq_ok_iff.mpr ⟨_, readMember_of_lookup rfl hvalue, rfl⟩

/-! ### Groups -/

/-- Holds of a group that is read back from what it is written as. -/
structure Group.Normal (g : Group) : Prop where
  joiner : g.joiner.Normal
  rows : ∀ c ∈ g.rows, c.Normal

/-- The records of the rows of a group. -/
def Group.storedRows (v : Json) : List Json :=
  (v.field? "rows" 1).elim [] items

theorem Group.parts_of_ofJson {v : Json} {g : Group} (h : Group.ofJson v = .ok g) :
    g.joiner.Normal ∧ ∀ c ∈ g.rows, ∃ w ∈ storedRows v, Condition.ofJson w = .ok c := by
  cases v with
  | object members =>
    obtain ⟨joiner, hjoiner, h⟩ := bind_eq_ok_iff.mp h
    obtain ⟨rows, hrows, h⟩ := bind_eq_ok_iff.mp h
    cases h
    constructor
    · cases joiner with
      | none => exact Term.normal_known _
      | some t =>
        obtain ⟨_, _, ht⟩ := exists_member_of_readMember hjoiner
        exact Term.normal_of_ofJson ht
    · intro c hc
      cases rows with
      | none => exact absurd hc List.not_mem_nil
      | some cs =>
        obtain ⟨w, hw, hcs⟩ := exists_member_of_readMember hrows
        have hstored : storedRows (.object members) = w.items := by
          rw [storedRows, field?, hw, Option.elim_some]
        rw [hstored]
        exact exists_item_of_readList hcs hc
  | array vs =>
    obtain ⟨joiner, hjoiner, h⟩ := bind_eq_ok_iff.mp h
    obtain ⟨rows, hrows, h⟩ := bind_eq_ok_iff.mp h
    obtain ⟨_, _, h⟩ := bind_eq_ok_iff.mp h
    cases h
    constructor
    · rcases readItemOr_eq_ok hjoiner with rfl | ⟨_, _, ht⟩
      · exact Term.normal_known _
      · exact Term.normal_of_ofJson ht
    · intro c hc
      rcases readItemOr_eq_ok hrows with rfl | ⟨w, hw, hcs⟩
      · exact absurd hc List.not_mem_nil
      · have hstored : storedRows (.array vs) = w.items := by
          rw [storedRows, field?, hw, Option.elim_some]
        rw [hstored]
        exact exists_item_of_readList hcs hc
  | null | bool | number | text => cases h

theorem Group.Normal.ofJson_toJson {g : Group} (h : g.Normal) : Group.ofJson g.toJson = .ok g := by
  have hrows : readList Condition.ofJson (.array (g.rows.map Condition.toJson)) = .ok g.rows :=
    readList_map fun c hc => (h.rows c hc).ofJson_toJson
  refine bind_eq_ok_iff.mpr ⟨_, readMember_of_lookup rfl h.joiner.ofJson_toJson, ?_⟩
  exact bind_eq_ok_iff.mpr ⟨_, readMember_of_lookup rfl hrows, rfl⟩

/-! ### Rulesets -/

/-- The values of all rows of a ruleset, as its JSON value holds them. -/
def Ruleset.storedValues (v : Json) : List Json :=
  (v.items.flatMap Group.storedRows).filterMap (field? "value" 2)

/-- A ruleset that was read is normal when the arrays and objects among its values are read back
from their text. -/
theorem Ruleset.normal_of_ofJson {v : Json} {r : Ruleset} (h : Ruleset.ofJson v = .ok r)
    (hback : ∀ w ∈ storedValues v, w.isStructured → w.ReadsBack) : ∀ g ∈ r, g.Normal := by
  intro g hg
  obtain ⟨gv, hgv, hreadg⟩ := exists_item_of_readList h hg
  obtain ⟨hjoiner, hrows⟩ := Group.parts_of_ofJson hreadg
  refine ⟨hjoiner, fun c hc => ?_⟩
  obtain ⟨cv, hcv, hreadc⟩ := hrows c hc
  obtain ⟨hfield, hoperator, w, hw, hvalue⟩ := Condition.parts_of_ofJson hreadc
  have hmem : w ∈ storedValues v :=
    List.mem_filterMap.mpr ⟨cv, List.mem_flatMap.mpr ⟨gv, hgv, hcv⟩, hw⟩
  refine ⟨hfield, hoperator, ?_⟩
  rw [hvalue]
  exact RuleValue.ofJson_toJson_ofJson (hback w hmem)

theorem Ruleset.ofJson_toJson {r : Ruleset} (h : ∀ g ∈ r, g.Normal) :
    Ruleset.ofJson (Ruleset.toJson r) = .ok r :=
  readList_map fun g hg => (h g hg).ofJson_toJson

end Entitlement
