import Entitlement.Proofs.Check.Condition
import Mathlib.Data.List.Count

/-!
# Ranges

A range is written as two numbers with a hyphen between them, and both of its ends belong to it. So
a number lies in a range just if it is neither less than the lower end nor greater than the upper
one. The three operators read their numbers alike, so that this holds however these are written; a
text with no hyphen or with several is never read as a range.
-/

namespace Entitlement

/-! ### Texts taken apart at a character -/

namespace Text

variable {separator : Char} {cs : List Char}

theorem parts_of_not_mem (h : separator ∉ cs) : parts separator cs = [cs] := by
  induction cs with
  | nil => rfl
  | cons c cs ih =>
    obtain ⟨hc, hcs⟩ := List.ne_and_not_mem_of_not_mem_cons h
    rw [parts, if_neg hc.symm, ih hcs]

theorem parts_append (h : separator ∉ cs) (rest : List Char) :
    parts separator (cs ++ separator :: rest) = cs :: parts separator rest := by
  induction cs with
  | nil => rw [List.nil_append, parts, if_pos rfl]
  | cons c cs ih =>
    obtain ⟨hc, hcs⟩ := List.ne_and_not_mem_of_not_mem_cons h
    rw [List.cons_append, parts, if_neg hc.symm, ih hcs]

theorem length_parts (separator : Char) (cs : List Char) :
    (parts separator cs).length = cs.count separator + 1 := by
  induction cs with
  | nil => rfl
  | cons c cs ih =>
    rw [parts]
    by_cases hc : c = separator
    · rw [if_pos hc, List.length_cons, ih, hc, List.count_cons_self]
    · rw [if_neg hc, List.count_cons_of_ne hc, ← ih]
      cases hparts : parts separator cs with
      | nil => rw [hparts] at ih; cases ih
      | cons part rest => rfl

theorem not_mem_of_mem_parts {part : List Char} (h : part ∈ parts separator cs) :
    separator ∉ part := by
  induction cs generalizing part with
  | nil =>
    rw [List.mem_singleton.mp h]
    exact List.not_mem_nil
  | cons c cs ih =>
    rw [parts] at h
    split_ifs at h with hc
    · rcases List.mem_cons.mp h with rfl | h
      · exact List.not_mem_nil
      · exact ih h
    · split at h
      · next first rest hparts =>
        rcases List.mem_cons.mp h with rfl | h
        · exact List.not_mem_cons_of_ne_of_not_mem (Ne.symm hc) (ih (by simp [hparts]))
        · exact ih (by simp [hparts, h])
      · rw [List.mem_singleton.mp h]
        exact List.not_mem_cons_of_ne_of_not_mem (Ne.symm hc) List.not_mem_nil

end Text

variable {a : Attribute} {raw low high : String} {x y min max : Binary64}

/-! ### Reading a range -/

/-- What stands on the two sides of the only hyphen is read as the two ends. -/
theorem rangeOfText?_of_hyphen (hlow : '-' ∉ low.toList) (hhigh : '-' ∉ high.toList) :
    rangeOfText? (low ++ "-" ++ high) =
      (numberOfText? low).bind fun min => (numberOfText? high).map fun max => (min, max) := by
  have hraw : (low ++ "-" ++ high).toList = low.toList ++ '-' :: high.toList := by
    rw [String.toList_append, String.toList_append, List.append_assoc]
    rfl
  rw [rangeOfText?, hraw, Text.parts_append hlow, Text.parts_of_not_mem hhigh]
  dsimp only
  rw [String.ofList_toList, String.ofList_toList]
  cases numberOfText? low <;> cases numberOfText? high <;> rfl

theorem rangeOfText?_of_count_ne_one (h : raw.toList.count '-' ≠ 1) : rangeOfText? raw = none := by
  have hlength := Text.length_parts '-' raw.toList
  rw [rangeOfText?]
  split
  · next hparts =>
    rw [hparts] at hlength
    exact absurd (Nat.succ.inj hlength).symm h
  · rfl

theorem rangeOfText?_eq_some_iff :
    rangeOfText? raw = some (min, max) ↔ ∃ low high, Text.parts '-' raw.toList = [low, high] ∧
      numberOfText? (String.ofList low) = some min ∧
      numberOfText? (String.ofList high) = some max := by
  rw [rangeOfText?]
  constructor
  · intro h
    split at h
    · next low high hparts =>
      obtain ⟨_, hmin, h⟩ := Option.bind_eq_some_iff.mp h
      obtain ⟨_, hmax, h⟩ := Option.bind_eq_some_iff.mp h
      cases h
      exact ⟨low, high, hparts, hmin, hmax⟩
    · cases h
  · rintro ⟨low, high, hparts, hmin, hmax⟩
    rw [hparts]
    dsimp only
    rw [hmin, hmax]
    rfl

/-- The lower end of a range has a text of its own. -/
theorem exists_text_of_rangeOfText? (h : rangeOfText? raw = some (min, max)) :
    ∃ low, numberOfText? low = some min := by
  obtain ⟨low, -, -, hmin, -⟩ := rangeOfText?_eq_some_iff.mp h
  exact ⟨_, hmin⟩

/-! ### Operators -/

namespace Operator

theorem evaluate_between_of_none (h : rangeOfText? raw = none) :
    between.evaluate raw a = .error (.malformedRange raw) := by
  rw [evaluate, Comparison.read, h]
  rfl

theorem evaluate_between_of_some (h : rangeOfText? raw = some (min, max)) :
    between.evaluate raw a =
      (Comparison.numberOf a).map fun x => decide (min ≤ x) && decide (x ≤ max) := by
  rw [evaluate, Comparison.read, h]
  rfl

theorem evaluate_between (hmin : numberOfText? low = some min) (hmax : numberOfText? high = some max)
    (hlow : '-' ∉ low.toList) (hhigh : '-' ∉ high.toList) :
    between.evaluate (low ++ "-" ++ high) a =
      (Comparison.numberOf a).map fun x => decide (min ≤ x) && decide (x ≤ max) := by
  refine evaluate_between_of_some ?_
  rw [rangeOfText?_of_hyphen hlow hhigh, hmin, hmax]
  rfl

theorem evaluate_lessThan (h : numberOfText? raw = some y) :
    lessThan.evaluate raw a = (Comparison.numberOf a).map fun x => decide (x < y) := by
  rw [evaluate, Comparison.read, h]
  rfl

theorem evaluate_greaterThan (h : numberOfText? raw = some y) :
    greaterThan.evaluate raw a = (Comparison.numberOf a).map fun x => decide (y < x) := by
  rw [evaluate, Comparison.read, h]
  rfl

end Operator

/-! ### Ranges and strict comparisons -/

theorem Comparison.numberOf_of_none (h : a.number? = none) :
    numberOf a = .error (.nonNumericValue a.shown) := by
  rw [numberOf, h]

theorem Comparison.numberOf_of_some (h : a.number? = some x) : numberOf a = .ok x := by
  rw [numberOf, h]

/-- Numbers are ordered by their places, of which any two can be compared. -/
theorem Binary64.not_lt_iff : ¬ x < y ↔ y ≤ x :=
  Int.not_lt

/-- The three questions that can be asked about a number and a text of one number. -/
def Operator.againstNumber (text : String) : List (Operator × String) :=
  [(.lessThan, text), (.greaterThan, text), (.between, text ++ "-" ++ text)]

/-- An attribute that is a number is less than a number, greater than it, or in the range from it
to itself, and only one of these. -/
theorem Operator.countP_againstNumber (hx : a.number? = some x) (hy : numberOfText? raw = some y)
    (hhyphen : '-' ∉ raw.toList) :
    (againstNumber raw).countP (fun q => q.1.evaluate q.2 a = .ok true) = 1 := by
  have hless : lessThan.evaluate raw a = .ok (decide (x < y)) := by
    rw [evaluate_lessThan hy, Comparison.numberOf_of_some hx, Except.map]
  have hgreater : greaterThan.evaluate raw a = .ok (decide (y < x)) := by
    rw [evaluate_greaterThan hy, Comparison.numberOf_of_some hx, Except.map]
  have hbetween : between.evaluate (raw ++ "-" ++ raw) a = .ok (decide (y ≤ x) && decide (x ≤ y)) := by
    rw [evaluate_between hy hy hhyphen hhyphen, Comparison.numberOf_of_some hx, Except.map]
  have hasymm : x < y → ¬ y < x := fun h => Binary64.not_lt_iff.mpr (Int.le_of_lt h)
  rw [againstNumber]
  simp only [List.countP_cons, List.countP_nil, hless, hgreater, hbetween, ← Binary64.not_lt_iff]
  by_cases hxy : x < y
  · simp [hxy, hasymm hxy]
  · by_cases hyx : y < x <;> simp [hxy, hyx]

/-- A number is in a range just if it is neither less than the lower end nor greater than the upper
one, and what is no number is refused. A range whose ends are not both numbers is refused whatever
is compared with it, and so is a text without a hyphen or with several. -/
theorem between_is_neither_less_nor_greater :
    (∀ (low high : String) (a : Attribute), '-' ∉ low.toList → '-' ∉ high.toList →
      let raw := low ++ "-" ++ high
      (numberOfText? low = none ∨ numberOfText? high = none →
        Operator.between.evaluate raw a = .error (.malformedRange raw)) ∧
      (numberOfText? low ≠ none → numberOfText? high ≠ none →
        (Operator.between.evaluate raw a = .error (.nonNumericValue a.shown) ↔ a.number? = none) ∧
        (a.number? ≠ none →
          ∃ inside, Operator.between.evaluate raw a = .ok inside ∧
            (inside = true ↔ Operator.lessThan.evaluate low a = .ok false ∧
              Operator.greaterThan.evaluate high a = .ok false)))) ∧
    (∀ (text : String) (a : Attribute), '-' ∉ text.toList → numberOfText? text ≠ none →
      a.number? ≠ none →
      (Operator.againstNumber text).countP (fun q => q.1.evaluate q.2 a = .ok true) = 1) ∧
    (∀ (raw : String) (a : Attribute), raw.toList.count '-' ≠ 1 →
      Operator.between.evaluate raw a = .error (.malformedRange raw)) ∧
    ∀ (p : Profile) (today : Date) (field : Field) (a : Attribute) (operator : Operator)
      (raw : String), p.attribute? today field = some a →
      ((Condition.mk (.known field) (.known operator) (.text raw)).check p today = .satisfied ↔
        operator.evaluate raw a = .ok true) := by
  refine ⟨fun low high a hlow hhigh => ⟨fun hbad => ?_, fun hmin hmax => ?_⟩, ?_, ?_, ?_⟩
  · refine Operator.evaluate_between_of_none ?_
    rw [rangeOfText?_of_hyphen hlow hhigh]
    rcases hbad with hbad | hbad
    · rw [hbad, Option.bind_none]
    · cases numberOfText? low <;> simp [hbad]
  · obtain ⟨min, hmin⟩ := Option.ne_none_iff_exists'.mp hmin
    obtain ⟨max, hmax⟩ := Option.ne_none_iff_exists'.mp hmax
    rw [Operator.evaluate_between hmin hmax hlow hhigh, Operator.evaluate_lessThan hmin,
      Operator.evaluate_greaterThan hmax]
    cases hx : a.number? with
    | none =>
      rw [Comparison.numberOf_of_none hx]
      exact ⟨iff_of_true rfl rfl, fun h => absurd rfl h⟩
    | some x =>
      rw [Comparison.numberOf_of_some hx]
      refine ⟨iff_of_false nofun nofun, fun _ => ⟨_, rfl, ?_⟩⟩
      simp [Except.map, ← Binary64.not_lt_iff]
  · intro text a hhyphen hy hx
    obtain ⟨y, hy⟩ := Option.ne_none_iff_exists'.mp hy
    obtain ⟨x, hx⟩ := Option.ne_none_iff_exists'.mp hx
    exact Operator.countP_againstNumber hx hy hhyphen
  · exact fun raw a h => Operator.evaluate_between_of_none (rangeOfText?_of_count_ne_one h)
  · exact fun p today field a operator raw ha => Condition.satisfied_iff_evaluate ha operator raw

/-- A mark of 19.5, stated as a text with blanks around it, in ranges that are written in several
ways. -/
theorem mark_on_the_edge_of_a_range :
    let a : Attribute := .text " 19.5 "
    Operator.between.evaluate "+1e1 -19.50" a = .ok true ∧
      Operator.between.evaluate "low-19.50" a = .error (.malformedRange "low-19.50") ∧
      (Operator.againstNumber "19.50").countP (fun q => q.1.evaluate q.2 a = .ok true) = 1 ∧
      Operator.between.evaluate "-5-20" a = .error (.malformedRange "-5-20") := by
  intro a
  obtain ⟨hrange, hone, hhyphens, -⟩ := between_is_neither_less_nor_greater
  have hend : numberOfText? "19.50" ≠ none := by decide +kernel
  have ha : a.number? ≠ none := by decide +kernel
  refine ⟨?_, ?_, hone "19.50" a (by decide +kernel) hend ha, hhyphens "-5-20" a (by decide +kernel)⟩
  · have hstart : numberOfText? "+1e1 " ≠ none := by decide +kernel
    obtain ⟨inside, hinside, hiff⟩ :=
      ((hrange "+1e1 " "19.50" a (by decide +kernel) (by decide +kernel)).2 hstart hend).2 ha
    have hedge : inside = true := hiff.mpr ⟨by decide +kernel, by decide +kernel⟩
    rw [hedge] at hinside
    exact hinside
  · exact (hrange "low" "19.50" a (by decide +kernel) (by decide +kernel)).1
      (Or.inl (by decide +kernel))

end Entitlement
