import Entitlement.Proofs.Assessment.Specification
import Entitlement.Proofs.Validation.Places

/-!
# Requirements by their descriptions

What is missing is listed in words, and what is said in the same words is listed once. The words are
two labels and the text of the value, with blanks between them and nothing around them. Labels have
blanks of their own, and the text may be any. But no label, with the blank behind it, begins another
one, so that the words can be taken apart in one way only. Where all rows can be read, the list
therefore loses no requirement, and nothing in it speaks of a condition that holds.
-/

namespace Entitlement

/-! ### Spellings that show where they end -/

/-- Holds when the spelling of a value can be told from whatever follows it. -/
def PrefixFree {α : Type} (spell : α → List Char) : Prop :=
  ∀ (a b : α) (rest more : List Char), spell a ++ rest = spell b ++ more → a = b ∧ rest = more

theorem prefixFree_of_forall {α : Type} {spell : α → List Char}
    (h : ∀ a b, spell a <+: spell b → a = b) : PrefixFree spell := by
  intro a b rest more heq
  have hmore : spell b <+: spell a ++ rest := heq ▸ List.prefix_append _ more
  have hab : a = b :=
    (List.prefix_or_prefix_of_prefix (List.prefix_append _ rest) hmore).elim (h a b)
      fun hba => (h b a hba).symm
  subst hab
  exact ⟨rfl, List.append_cancel_left heq⟩

/-- The label of a term and the blank behind it. -/
def opening {α : Type} [Vocabulary α] (t : α) : List Char :=
  (label t).toList ++ [' ']

theorem Field.prefixFree_opening : PrefixFree (opening : Field → List Char) :=
  prefixFree_of_forall fun a b => by cases a <;> cases b <;> decide

theorem Operator.prefixFree_opening : PrefixFree (opening : Operator → List Char) :=
  prefixFree_of_forall fun a b => by cases a <;> cases b <;> decide

/-! ### Descriptions of conditions -/

namespace Condition

variable {c d : Condition} {p : Profile} {today : Date}

/-- Holds of a condition whose field and operator are recognized and whose value is a text. -/
def Recognized (c : Condition) : Prop :=
  ∃ field operator raw, c = ⟨.known field, .known operator, .text raw⟩

theorem WellFormed.recognized (h : c.WellFormed) : c.Recognized := by
  obtain ⟨field, operator, raw, _, hc, _⟩ := h
  exact ⟨field, operator, raw, hc⟩

/-- All other conditions are refused, whoever they are checked for. -/
theorem recognized_of_satisfied (h : c.check p today = .satisfied) : c.Recognized := by
  rcases c with ⟨field | raw, operator | raw, target | json⟩
  case known.known.text => exact ⟨field, operator, target, rfl⟩
  all_goals cases h

theorem toList_describe (field : Field) (operator : Operator) (raw : String) :
    (Condition.mk (.known field) (.known operator) (.text raw)).describe.toList =
      opening field ++ (opening operator ++ raw.toList) := by
  simp [describe, Term.text, RuleValue.raw, opening]

/-- The field can be told from what follows it, and so can the operator then, and what is left is
the value. -/
theorem describe_inj (hc : c.Recognized) (hd : d.Recognized) (h : c.describe = d.describe) :
    c = d := by
  obtain ⟨field, operator, raw, rfl⟩ := hc
  obtain ⟨field', operator', raw', rfl⟩ := hd
  have hall := congrArg String.toList h
  rw [toList_describe, toList_describe] at hall
  obtain ⟨rfl, hrest⟩ := Field.prefixFree_opening _ _ _ _ hall
  obtain ⟨rfl, hraw⟩ := Operator.prefixFree_opening _ _ _ _ hrest
  rw [String.toList_inj.mp hraw]

/-- Where the operator is not recognized, it cannot be told from the value. -/
example :
    let c : Condition := ⟨.known .age, .unrecognized "At", .text "Least 18"⟩
    let d : Condition := ⟨.known .age, .unrecognized "At Least", .text "18"⟩
    c.describe = d.describe ∧ c ≠ d := by
  decide +kernel

end Condition

/-! ### What is listed where all rows can be read -/

/-- Where equal images mean equal elements, the first occurrences of the images are those of the
elements. -/
theorem eraseDups_map {α β : Type} [BEq α] [LawfulBEq α] [BEq β] [LawfulBEq β] {f : α → β}
    {xs : List α} (hf : ∀ x ∈ xs, ∀ y ∈ xs, f x = f y → x = y) :
    (xs.map f).eraseDups = xs.eraseDups.map f := by
  -- from the end, as the last element is looked up among those before it
  induction xs using List.reverseRecOn with
  | nil => rfl
  | append_singleton xs last ih =>
    have hbefore : ∀ x ∈ xs, ∀ y ∈ xs, f x = f y → x = y := fun x hx y hy =>
      hf x (List.mem_append_left _ hx) y (List.mem_append_left _ hy)
    have hlast : f last ∈ xs.map f ↔ last ∈ xs := by
      refine ⟨fun h => ?_, List.mem_map_of_mem⟩
      obtain ⟨x, hx, heq⟩ := List.mem_map.mp h
      have hsame : x = last := hf x (List.mem_append_left _ hx) last (by simp) heq
      exact hsame ▸ hx
    rw [List.map_append, List.eraseDups_append, List.eraseDups_append, List.map_append, ih hbefore]
    by_cases hmem : last ∈ xs
    · simp [List.removeAll, hmem, hlast.mpr hmem]
    · simp [List.removeAll, hmem, mt hlast.mp hmem, List.eraseDups_cons]

variable {p : Profile} {today : Date} {c : Condition}

/-- A group whose joiner is recognized lists its unmet rows if it fails. -/
theorem Group.mem_listed_iff {g : Group} {joiner : Joiner} (hj : g.joiner = .known joiner) :
    c ∈ g.listed p today ↔
      ¬ g.Passes p today ∧ c ∈ g.rows ∧ c.check p today ≠ .satisfied := by
  by_cases h : g.Passes p today
  · rw [listed_of_passes h]
    exact iff_of_false List.not_mem_nil fun hlisted => hlisted.1 h
  · rw [listed_of_not_passes hj h, List.mem_filter, decide_eq_true_iff]
    exact (and_iff_right h).symm

namespace Ruleset

variable {r : Ruleset}

theorem Clean.mem_listed_iff (hr : r.Clean) :
    c ∈ r.listed p today ↔
      ∃ g ∈ r, ¬ g.Passes p today ∧ c ∈ g.rows ∧ c.check p today ≠ .satisfied := by
  rw [listed, List.mem_flatMap]
  refine exists_congr fun g => and_congr_right fun hg => ?_
  obtain ⟨joiner, hj⟩ := (clean_iff.mp hr g hg).joiner
  exact Group.mem_listed_iff hj

theorem Clean.recognized_of_mem_listed (hr : r.Clean) (hc : c ∈ r.listed p today) :
    c.Recognized := by
  obtain ⟨g, hg, _, hrow, _⟩ := hr.mem_listed_iff.mp hc
  exact ((clean_iff.mp hr g hg).rows c hrow).recognized

/-- The list of what is missing describes every listed condition once, in the order in which they
are listed first. -/
theorem Clean.missing_eq (hr : r.Clean) (p : Profile) (today : Date) :
    (r.assess p today).verdict.missing = (r.listed p today).eraseDups.map Condition.describe := by
  rw [assess_missing, foldl_addMissing_eq_eraseDups]
  exact eraseDups_map fun c hc d hd =>
    Condition.describe_inj (hr.recognized_of_mem_listed hc) (hr.recognized_of_mem_listed hd)

theorem nodup_missing (r : Ruleset) (p : Profile) (today : Date) :
    (r.assess p today).verdict.missing.Nodup := by
  rw [assess_missing]
  exact nodup_foldl_addMissing List.nodup_nil

/-- A recognized condition is found in the list just if it is listed itself. -/
theorem Clean.describe_mem_missing_iff (hr : r.Clean) (hc : c.Recognized) :
    c.describe ∈ (r.assess p today).verdict.missing ↔ c ∈ r.listed p today := by
  rw [hr.missing_eq, List.mem_map]
  constructor
  · rintro ⟨d, hd, heq⟩
    have hlisted := List.mem_eraseDups.mp hd
    exact Condition.describe_inj (hr.recognized_of_mem_listed hlisted) hc heq ▸ hlisted
  · exact fun h => ⟨c, List.mem_eraseDups.mpr h, rfl⟩

end Ruleset

/-! ### Requirements and their descriptions -/

/-- Recognized conditions with equal descriptions are equal. So where a ruleset has no errors, what
is missing has one entry for each of the different conditions that failing groups list, all of them
unmet rows, and has none that describes a condition which is satisfied. -/
theorem descriptions_tell_conditions_apart :
    (∀ c d : Condition, c.Recognized → d.Recognized → c.describe = d.describe → c = d) ∧
    ∀ (r : Ruleset) (p : Profile) (today : Date), r.Clean →
      let missing := (r.assess p today).verdict.missing
      (∀ c, c ∈ r.listed p today ↔
        ∃ g ∈ r, ¬ g.Passes p today ∧ c ∈ g.rows ∧ c.check p today ≠ .satisfied) ∧
      missing = (r.listed p today).eraseDups.map Condition.describe ∧
      missing.Nodup ∧
      (∀ c : Condition, c.Recognized → (c.describe ∈ missing ↔ c ∈ r.listed p today)) ∧
      ∀ c : Condition, c.check p today = .satisfied → c.describe ∉ missing := by
  refine ⟨fun c d => Condition.describe_inj, fun r p today hr => ?_⟩
  refine ⟨fun c => hr.mem_listed_iff, hr.missing_eq p today, r.nodup_missing p today,
    fun c => hr.describe_mem_missing_iff, fun c hc hmissing => ?_⟩
  have hlisted := (hr.describe_mem_missing_iff (Condition.recognized_of_satisfied hc)).mp hmissing
  obtain ⟨_, _, _, _, hunmet⟩ := hr.mem_listed_iff.mp hlisted
  exact hunmet hc

/-- A row that two groups ask for, once with blanks around its label, and a row whose value begins
like an operator. -/
theorem row_of_two_groups_is_described_once :
    let p : Profile := { id := "p-1", state := some "Kerala" }
    let goa : Condition := ⟨.known .state, .known .equals, .text "Goa"⟩
    let again : Condition := ⟨Term.read " State ", Term.read "Equals", .text "Goa"⟩
    let odd : Condition := ⟨.known .state, .known .equals, .text "Equals Goa"⟩
    let kerala : Condition := ⟨.known .state, .known .includes, .text "Kerala"⟩
    let r : Ruleset := [.allOf [goa, kerala, odd], .anyOf [odd, again]]
    again = goa ∧ r.Clean ∧ (r.listed p .last).length = 4 ∧
      (r.assess p .last).verdict.missing = ["State Equals Goa", "State Equals Equals Goa"] ∧
      kerala.check p .last = .satisfied ∧
      kerala.describe ∉ (r.assess p .last).verdict.missing := by
  intro p goa again odd kerala r
  obtain ⟨happart, hlist⟩ := descriptions_tell_conditions_apart
  have hsame : again = goa :=
    happart again goa ⟨.state, .equals, "Goa", by decide +kernel⟩ ⟨_, _, _, rfl⟩ (by decide +kernel)
  have hclean : r.Clean := by
    rw [Ruleset.Clean]
    decide +kernel
  have hmet : kerala.check p .last = .satisfied := by decide +kernel
  obtain ⟨-, hmissing, -, -, hnone⟩ := hlist r p .last hclean
  refine ⟨hsame, hclean, by decide +kernel, ?_, hmet, hnone kerala hmet⟩
  rw [hmissing]
  decide +kernel

end Entitlement
