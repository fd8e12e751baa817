import Entitlement.Proofs.Check.Condition
import Entitlement.Proofs.Text.Sigma

/-!
# Searching for a part of a text

A row that asks whether a text is included searches the lower case of the value for the lower case
of its own text. Both are lower-cased as wholes, so a text that stands in the value as it is may be
missed: a capital sigma can be final in the one and not in the other. Exactly the texts that decide
about their own sigmas are found wherever they stand.
-/

namespace Entitlement

variable {p : Profile} {today : Date} {field : Field}

theorem occursIn_iff {part cs : List Char} : occursIn part cs = true ↔ part <:+: cs := by
  induction cs with
  | nil => rw [occursIn, List.isEmpty_iff, List.infix_nil]
  | cons c cs ih =>
    rw [occursIn, Bool.or_eq_true, List.isPrefixOf_iff_prefix, ih, List.infix_cons_iff]

/-- The row that asks a field to include the text. -/
def Condition.includes (field : Field) (t : String) : Condition :=
  ⟨.known field, .known .includes, .text t⟩

theorem Condition.includes_satisfied_iff {v t : String}
    (hv : p.attribute? today field = some (.text v)) :
    (Condition.includes field t).check p today = .satisfied ↔
      Text.lower t.toList <:+: Text.lower v.toList := by
  have hcheck := Condition.check_includes (t := t) hv
  rw [Attribute.shown, Text.lowered, Text.lowered, String.toList_ofList, String.toList_ofList]
    at hcheck
  rw [includes, hcheck, ← occursIn_iff]
  cases occursIn (Text.lower t.toList) (Text.lower v.toList) <;> simp

/-- A text that is part of a value is found in it if the same of its sigmas are final there as by
themselves. It is found in every value that it is part of just if it decides about all its sigmas,
as a text without any does. -/
theorem part_of_text_is_found_iff (t : String) :
    (∀ (field : Field) (p : Profile) (today : Date) (v : String) (front back : List Char),
      p.attribute? today field = some (.text v) → v.toList = front ++ t.toList ++ back →
      Text.KeepsSigmas front.reverse t.toList back →
      (Condition.includes field t).check p today = .satisfied) ∧
    ((∀ (field : Field) (p : Profile) (today : Date) (v : String),
      p.attribute? today field = some (.text v) → t.toList <:+: v.toList →
      (Condition.includes field t).check p today = .satisfied) ↔ Text.IsSteady t.toList) := by
  refine ⟨fun field p today v front back hv hsplit hkeeps => ?_, fun h => ?_, fun h => ?_⟩
  · rw [Condition.includes_satisfied_iff hv, hsplit]
    exact hkeeps.lower_isInfix
  -- Any text can be the state of a profile.
  · refine Text.isSteady_iff.mpr fun front back => ?_
    obtain ⟨v, hv⟩ : ∃ v : String, v.toList = front ++ t.toList ++ back :=
      ⟨String.ofList (front ++ t.toList ++ back), String.toList_ofList⟩
    have hstate : ({ id := "", state := some v } : Profile).attribute? .last .state =
        some (.text v) := rfl
    have hfound := h .state _ .last v hstate ⟨front, back, hv.symm⟩
    rwa [Condition.includes_satisfied_iff hstate, hv] at hfound
  · rintro field p today v hv ⟨front, back, hsplit⟩
    rw [Condition.includes_satisfied_iff hv, ← hsplit]
    exact Text.isSteady_iff.mp h front back

/-- A word that begins with a sigma decides about it, and is found behind other words. -/
theorem second_word_of_a_state_is_found :
    let p : Profile := { id := "p-1", state := some "ΑΓΙΑ ΣΟΦΙΑ" }
    Text.KeepsSigmas "ΑΓΙΑ ".toList.reverse "ΣΟΦΙΑ".toList [] ∧ Text.IsSteady "ΣΟΦΙΑ".toList ∧
      (Condition.includes .state "ΣΟΦΙΑ").check p .last = .satisfied := by
  intro p
  have hword : "ΣΟΦΙΑ".toList = ['Σ', 'Ο', 'Φ', 'Ι', 'Α'] := by decide +kernel
  have hsteady : Text.IsSteady "ΣΟΦΙΑ".toList := by
    rw [hword]
    rintro (_ | ⟨c, front⟩) back hsplit
    · obtain ⟨-, rfl⟩ := List.cons.inj hsplit
      exact Or.inl (by decide +kernel)
    · obtain ⟨-, htail⟩ := List.cons.inj hsplit
      have hmem : 'Σ' ∈ ['Ο', 'Φ', 'Ι', 'Α'] :=
        htail ▸ List.mem_append_right front List.mem_cons_self
      exact absurd hmem (by decide)
  have hkeeps := hsteady.keepsSigmas "ΑΓΙΑ ".toList.reverse []
  obtain ⟨hfound, -⟩ := part_of_text_is_found_iff "ΣΟΦΙΑ"
  have hsplit : "ΑΓΙΑ ΣΟΦΙΑ".toList = "ΑΓΙΑ ".toList ++ "ΣΟΦΙΑ".toList ++ [] := by decide +kernel
  exact ⟨hkeeps, hsteady, hfound .state p .last _ _ _ rfl hsplit hkeeps⟩

/-- The beginning of a word is missed in the word when it ends in a sigma, which is final in the one
and not in the other. -/
theorem beginning_of_a_state_is_missed :
    let p : Profile := { id := "p-1", state := some "ΘΕΣΣΑΛΙΑ" }
    let today : Date := ⟨2024, 6, 15, by decide, by decide, by decide⟩
    p.attribute? today .state = some (.text "ΘΕΣΣΑΛΙΑ") ∧
      "ΘΕΣ".toList <:+: "ΘΕΣΣΑΛΙΑ".toList ∧
      (Condition.includes .state "ΘΕΣ").check p today = .unsatisfied := by
  intro p today
  exact ⟨rfl, ⟨[], "ΣΑΛΙΑ".toList, by decide +kernel⟩, by decide +kernel⟩

end Entitlement
