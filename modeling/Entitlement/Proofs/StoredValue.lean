import Entitlement.Proofs.Json.Change
import Entitlement.Proofs.Rule.Codec
import Entitlement.Proofs.Service.Results
import Entitlement.Proofs.Validation.Rows
import Entitlement.Scheme

/-!
# Rule values of any kind

Whatever JSON value stands in a row of a stored scheme, the scheme loads, and all but that row is
as with any other value. An array or object makes a row that holds for nobody, which validation
reports; the scheme is listed all the same.
-/

namespace Entitlement

open Json

/-! ### Rows with another value -/

/-- The condition with another value. -/
def Condition.withValue (value : RuleValue) (c : Condition) : Condition :=
  { c with value }

/-- The group with another value in the row at a place. -/
def Group.withValue (row : Nat) (value : RuleValue) (g : Group) : Group :=
  { g with rows := g.rows.modify row (·.withValue value) }

/-- The ruleset with another value in a row of the group at a place. -/
def Ruleset.withValue (place row : Nat) (value : RuleValue) (r : Ruleset) : Ruleset :=
  r.modify place (·.withValue row value)

/-! ### Records with another value -/

/-- The record of a condition with another value. -/
def Condition.storeValue (v : Json) : Json → Json :=
  changeField "value" 2 fun _ => v

/-- The record of a group with another value in the row at a place. -/
def Group.storeValue (row : Nat) (v : Json) : Json → Json :=
  changeField "rows" 1 (changeItem row (Condition.storeValue v))

/-- The record of a scheme with another value in a row of the group at a place. -/
def Scheme.storeValue (place row : Nat) (v : Json) : Json → Json :=
  changeField "conditions" 7 (changeItem place (Group.storeValue row v))

/-! ### Reading them -/

variable {record v : Json} {s : Scheme} {g : Group} {c : Condition} {place row : Nat}

theorem Condition.ofJson_storeValue (h : Condition.ofJson record = .ok c) (v : Json) :
    Condition.ofJson (storeValue v record) = .ok (c.withValue (RuleValue.ofJson v)) := by
  cases record with
  | object members =>
    simp only [ofJson, bind_eq_ok_iff, required_eq_ok_iff] at h
    obtain ⟨_, hfield, _, hoperator, _, hvalue, _, rfl, _, rfl, _, rfl, h⟩ := h
    cases h
    simp only [storeValue, changeField, ofJson, bind_eq_ok_iff, required_eq_ok_iff]
    simp (disch := decide) only [readMember_changeMember_of_ne]
    exact ⟨_, hfield, _, hoperator, _, readMember_changeMember hvalue fun _ _ => rfl, _, rfl, _,
      rfl, _, rfl, rfl⟩
  | array vs =>
    simp only [ofJson, bind_eq_ok_iff] at h
    obtain ⟨_, hfield, _, hoperator, _, hvalue, _, hlength, h⟩ := h
    cases h
    simp only [storeValue, changeField, ofJson, bind_eq_ok_iff, checkLength_modify]
    simp (disch := decide) only [readItem_modify_of_ne]
    exact ⟨_, hfield, _, hoperator, _, readItem_modify hvalue fun _ _ => rfl, _, hlength, rfl⟩
  | null | bool | number | text => cases h

/-- The rows are there to be changed: left to their default, a group has none. -/
theorem Group.ofJson_storeValue (h : Group.ofJson record = .ok g) (hc : g.rows[row]? = some c) :
    Group.ofJson (storeValue row v record) = .ok (g.withValue row (RuleValue.ofJson v)) := by
  have hchange : ∀ cs : List Condition, cs[row]? = some c →
      ∀ w, readList Condition.ofJson w = .ok cs →
        readList Condition.ofJson (changeItem row (Condition.storeValue v) w) =
          .ok (cs.modify row (·.withValue (RuleValue.ofJson v))) := by
    intro cs hcs w hw
    exact readList_changeItem hw hcs fun u hu => Condition.ofJson_storeValue hu v
  cases record with
  | object members =>
    simp only [ofJson, bind_eq_ok_iff] at h
    obtain ⟨_, hjoiner, rows, hrows, h⟩ := h
    cases h
    cases rows with
    | none => cases hc
    | some cs =>
      simp only [storeValue, changeField, ofJson, bind_eq_ok_iff]
      simp (disch := decide) only [readMember_changeMember_of_ne]
      exact ⟨_, hjoiner, _, readMember_changeMember hrows (hchange cs hc), rfl⟩
  | array vs =>
    simp only [ofJson, bind_eq_ok_iff] at h
    obtain ⟨_, hjoiner, cs, hrows, _, hlength, h⟩ := h
    cases h
    have hne : cs ≠ [] := by
      rintro rfl
      cases hc
    simp only [storeValue, changeField, ofJson, bind_eq_ok_iff, checkLength_modify]
    simp (disch := decide) only [readItemOr_modify_of_ne]
    exact ⟨_, hjoiner, _, readItemOr_modify hrows hne (hchange cs hc), _, hlength, rfl⟩
  | null | bool | number | text => cases h

theorem Scheme.ofJson_storeValue (h : Scheme.ofJson record = .ok s)
    (hg : s.conditions[place]? = some g) (hc : g.rows[row]? = some c) :
    Scheme.ofJson (storeValue place row v record) =
      .ok { s with conditions := s.conditions.withValue place row (RuleValue.ofJson v) } := by
  have hchange : ∀ r : Ruleset, r[place]? = some g → ∀ w, Ruleset.ofJson w = .ok r →
      Ruleset.ofJson (changeItem place (Group.storeValue row v) w) =
        .ok (r.withValue place row (RuleValue.ofJson v)) := by
    intro r hr w hw
    exact readList_changeItem hw hr fun u hu => Group.ofJson_storeValue hu hc
  cases record with
  | object members =>
    simp only [ofJson, bind_eq_ok_iff, required_eq_ok_iff] at h
    obtain ⟨conditions, hconditions, _, hdeadline, _, hdepartment, _, hdescription, _, hid, _,
      hmatched, _, hname, _, htype, _, hstatus, _, htotal, _, rfl, _, rfl, _, rfl, h⟩ := h
    cases h
    cases conditions with
    | none => cases hg
    | some r =>
      simp only [storeValue, changeField, ofJson, bind_eq_ok_iff, required_eq_ok_iff]
      simp (disch := decide) only [readMember_changeMember_of_ne]
      exact ⟨_, readMember_changeMember hconditions (hchange r hg), _, hdeadline, _, hdepartment, _,
        hdescription, _, hid, _, hmatched, _, hname, _, htype, _, hstatus, _, htotal, _, rfl, _,
        rfl, _, rfl, rfl⟩
  | array vs =>
    simp only [ofJson, bind_eq_ok_iff] at h
    obtain ⟨_, hid, _, hname, _, hdepartment, _, htype, _, hdescription, _, hdeadline, _, hstatus,
      r, hconditions, _, hmatched, _, htotal, _, hlength, h⟩ := h
    cases h
    have hne : r ≠ [] := by
      rintro rfl
      cases hg
    simp only [storeValue, changeField, ofJson, bind_eq_ok_iff, checkLength_modify]
    simp (disch := decide) only [readItem_modify_of_ne, readItemOr_modify_of_ne]
    exact ⟨_, hid, _, hname, _, hdepartment, _, htype, _, hdescription, _, hdeadline, _, hstatus,
      _, readItemOr_modify hconditions hne (hchange r hg), _, hmatched, _, htotal, _, hlength, rfl⟩
  | null | bool | number | text => cases h

/-! ### Arrays and objects as values -/

theorem RuleValue.ofJson_of_isStructured (h : v.isStructured = true) :
    RuleValue.ofJson v = .unsupported v.compact := by
  cases v with
  | array | object => rfl
  | null | bool | number | text => cases h

theorem RuleValue.ofJson_unsupported_iff :
    (∃ json, RuleValue.ofJson v = .unsupported json) ↔ v.isStructured = true := by
  cases v <;> simp [RuleValue.ofJson, Json.isStructured]

theorem RuleValue.ofJson_text_iff :
    (∃ text, RuleValue.ofJson v = .text text) ↔ v.isStructured = false := by
  cases v <;> simp [RuleValue.ofJson, Json.isStructured]

theorem Condition.question_of_unsupported (c : Condition) (json : String) :
    ∃ reason, (c.withValue (.unsupported json)).question = .error reason := by
  rcases c with ⟨field | raw, operator | raw, value⟩ <;> exact ⟨_, rfl⟩

/-- Whether the profile supplies the field has no part in it. -/
theorem Condition.check_of_unsupported {f : Field} {o : Operator} (hf : c.field = .known f)
    (ho : c.operator = .known o) (json : String) (p : Profile) (today : Date) :
    (c.withValue (.unsupported json)).check p today = .refused (.unsupportedValue json) := by
  simp only [withValue, check, hf, ho]

theorem Ruleset.exists_error_of_unsupported {r : Ruleset} (hg : r[place]? = some g)
    (hc : g.rows[row]? = some c) (json : String) :
    ∃ i ∈ (r.withValue place row (.unsupported json)).issues,
      i.group = place ∧ i.row = some row ∧ i.isError = true := by
  have hplace : (r.withValue place row (.unsupported json))[place]? =
      some (g.withValue row (.unsupported json)) := by
    rw [withValue, List.getElem?_modify_eq, hg]
    rfl
  have hrow : (g.withValue row (.unsupported json)).rows[row]? =
      some (c.withValue (.unsupported json)) := by
    rw [Group.withValue, List.getElem?_modify_eq, hc]
    rfl
  obtain ⟨reason, hreason⟩ := c.question_of_unsupported json
  obtain ⟨kind, hkind, _⟩ := Condition.firstError?_of_question_error hreason
  rw [← rowIssues_eq hplace hrow] at hkind
  exact exists_issue_of_firstError? hkind

/-- Whatever JSON value is put in place of a row's value, the record of the scheme loads, to the
same scheme with the value that it stands for in that row. Only arrays and objects stand for none
that can be compared: then the row is refused to everybody on every day, as unsupported if its field
and operator are recognized, and validation reports an error for it. In either case the scheme is
listed once in the results of every profile. -/
theorem rule_value_costs_no_scheme_its_place (hs : Scheme.ofJson record = .ok s)
    (hg : s.conditions[place]? = some g) (hc : g.rows[row]? = some c) (v : Json) :
    let value := RuleValue.ofJson v
    let changed : Condition := c.withValue value
    let t : Scheme := { s with conditions := s.conditions.withValue place row value }
    Scheme.ofJson (Scheme.storeValue place row v record) = .ok t ∧
    ((∃ json, value = .unsupported json) ↔ v.isStructured = true) ∧
    ((∃ text, value = .text text) ↔ v.isStructured = false) ∧
    (v.isStructured = true →
      (∀ p today, ∃ why, changed.check p today = .refused why) ∧
      (∀ f o, c.field = .known f → c.operator = .known o → ∀ p today,
        changed.check p today = .refused (.unsupportedValue v.compact)) ∧
      ∃ i ∈ t.conditions.issues, i.group = place ∧ i.row = some row ∧ i.isError = true) ∧
    ∀ (service : Service) (p : Profile) (before after : List Scheme),
      let results := p.matchSchemes (before ++ t :: after) service.today service.threshold
      let others := p.matchSchemes (before ++ after) service.today service.threshold
      results.entries.Perm (t.entryOf (service.check p t.conditions) :: others.entries) := by
  intro value changed t
  have hload : Scheme.ofJson (Scheme.storeValue place row v record) = .ok t :=
    Scheme.ofJson_storeValue hs hg hc
  refine ⟨hload, RuleValue.ofJson_unsupported_iff, RuleValue.ofJson_text_iff, ?_,
    fun service p before after => service.matchSchemes_insert p t before after⟩
  intro hstructured
  have hvalue : value = .unsupported v.compact := RuleValue.ofJson_of_isStructured hstructured
  obtain ⟨reason, hreason⟩ := c.question_of_unsupported v.compact
  simp only [changed, t, hvalue]
  exact ⟨Condition.exists_refused_of_question_error hreason,
    fun f o hf ho => Condition.check_of_unsupported hf ho v.compact,
    Ruleset.exists_error_of_unsupported hg hc v.compact⟩

/-- A list with an object in it for the state that the first row of the second group asks for. The
groups are written in different ways, and the other rows ask nothing. -/
theorem list_of_states_keeps_the_scheme :
    let rules (value : Json) : Json := .array
      [.array [.text "OR", .array [.array [.text "Caste", .text "Equals", .null]]],
       .object [("rows", .array
         [.object [("field", .text " State"), ("operator", .text "Equals"), ("value", value)],
          .array [.text "Age", .text "Near", .bool true]])]]
    let record (value : Json) : Json := .object [("conditions", rules value),
      ("deadline", .text "2030-01-31"), ("id", .text "s-1"), ("name", .text "Merit")]
    let g : Group := .allOf [⟨.known .state, .known .equals, .text "Goa"⟩,
      ⟨.known .age, .unrecognized "Near", .text "true"⟩]
    let caste : Condition := ⟨.unrecognized "Caste", .known .equals, .text ""⟩
    let s : Scheme := { id := "s-1", name := "Merit", conditions := [.anyOf [caste], g],
                        deadline := ⟨2030, 1, 31, by decide, by decide, by decide⟩ }
    let v : Json := .array [.text "Goa", .object [("pin", .number (.integer 403001))]]
    let json := "[\"Goa\",\x7b\"pin\":403001\x7d]"
    let t := { s with conditions := s.conditions.withValue 1 0 (.unsupported json) }
    Scheme.ofJson (record (.text "Goa")) = .ok s ∧ Scheme.ofJson (record v) = .ok t ∧
      (∀ p today, (⟨.known .state, .known .equals, .unsupported json⟩ : Condition).check p today =
        .refused (.unsupportedValue json)) ∧
      ∃ i ∈ t.conditions.issues, i.group = 1 ∧ i.row = some 0 ∧ i.isError = true := by
  intro rules record g caste s v json t
  have hload : Scheme.ofJson (record (.text "Goa")) = .ok s := rfl
  have hgroup : s.conditions[1]? = some g := rfl
  have hrow : g.rows[0]? = some ⟨.known .state, .known .equals, .text "Goa"⟩ := rfl
  obtain ⟨hchanged, _, _, hunsupported, _⟩ :=
    rule_value_costs_no_scheme_its_place hload hgroup hrow v
  obtain ⟨_, hrefused, hissue⟩ := hunsupported rfl
  exact ⟨hload, hchanged, hrefused .state .equals rfl rfl, hissue⟩

end Entitlement
