import Entitlement.Check.Comparison
import Entitlement.Rule.Basic

/-!
# Checking conditions and groups

A condition is met, unmet or refused. A group passes by its joiner; when it fails it lists the rows
that did not hold. A group without rows passes, one whose joiner is not recognized never does.
-/

namespace Entitlement

/-! ### Conditions -/

/-- What came of checking a condition. -/
inductive Outcome where
  | satisfied
  | unsatisfied
  | refused (reason : Refusal)
  deriving DecidableEq

/-- Holds when the condition could not be compared. -/
def Outcome.isRefused : Outcome → Bool
  | .refused _ => true
  | _ => false

theorem Outcome.isRefused_iff {o : Outcome} :
    o.isRefused = true ↔ ∃ reason, o = .refused reason := by
  cases o <;> simp [isRefused]

/-- Checks a condition. The field is looked at first, then the operator, the kind of the value,
whether the profile has the attribute, the value as the operator needs it, and the attribute. -/
def Condition.check (c : Condition) (p : Profile) (today : Date) : Outcome :=
  match c.field with
  | .unrecognized raw => .refused (.unrecognizedField raw)
  | .known field =>
    match c.operator with
    | .unrecognized raw => .refused (.unrecognizedOperator raw)
    | .known operator =>
      match c.value with
      | .unsupported json => .refused (.unsupportedValue json)
      | .text target =>
        match p.attribute? today field with
        | none => .refused (.missingAttribute field)
        | some a =>
          match (Comparison.read operator target).bind fun comparison => comparison.test a with
          | .ok true => .satisfied
          | .ok false => .unsatisfied
          | .error reason => .refused reason

/-! ### Groups -/

/-- A condition that did not hold. -/
structure Failure where
  condition : Condition
  outcome : Outcome
  deriving DecidableEq

/-- Whether a group passes, and if not, the rows to show for it. -/
structure GroupResult where
  passed : Bool
  failures : List Failure
  deriving DecidableEq

/-- The rows of a group that do not hold. -/
def Group.unmet (g : Group) (p : Profile) (today : Date) : List Failure :=
  g.rows.filterMap fun c =>
    match c.check p today with
    | .satisfied => none
    | outcome => some ⟨c, outcome⟩

/-- Whether rows combined by a joiner pass of which the given ones do not hold. -/
def Joiner.passes (rows : List Condition) (unmet : List Failure) : Joiner → Bool
  | .all => unmet.isEmpty
  | .any => rows.isEmpty || unmet.length < rows.length

/-- The result of a group by the rows that do not hold, which a group that passes does not show. -/
def Group.resultOf (g : Group) (joiner : Joiner) (unmet : List Failure) : GroupResult :=
  if joiner.passes g.rows unmet then ⟨true, []⟩ else ⟨false, unmet⟩

/-- Evaluates a group. One that asks for any row fails only when all of its rows do. -/
def Group.evaluate (g : Group) (p : Profile) (today : Date) : GroupResult :=
  match g.joiner with
  | .unrecognized raw => ⟨false, g.rows.map fun c => ⟨c, .refused (.unrecognizedJoiner raw)⟩⟩
  | .known joiner => g.resultOf joiner (g.unmet p today)

end Entitlement
