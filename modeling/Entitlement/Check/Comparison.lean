import Entitlement.Check.Attribute
import Entitlement.Json.Basic
import Entitlement.Text.Basic
import Entitlement.Text.Lower

/-!
# Comparisons

An operator with its value read into the form that the operator needs, and its test of an
attribute. What cannot be compared is refused, with the reason.
-/

namespace Entitlement

/-! ### Refusals -/

/-- Why a condition counts as unmet without having been compared. -/
inductive Refusal where
  | unrecognizedField (raw : String)
  | unrecognizedOperator (raw : String)
  | unrecognizedJoiner (raw : String)
  | missingAttribute (field : Field)
  | nonNumericTarget (raw : String)
  | nonNumericValue (shown : String)
  | malformedRange (raw : String)
  | unsupportedValue (json : String)
  deriving DecidableEq

namespace Refusal

/-- The kind of the refusal, as written in JSON. -/
def kind : Refusal → String
  | .unrecognizedField _ => "unrecognized_field"
  | .unrecognizedOperator _ => "unrecognized_operator"
  | .unrecognizedJoiner _ => "unrecognized_joiner"
  | .missingAttribute _ => "missing_attribute"
  | .nonNumericTarget _ => "non_numeric_target"
  | .nonNumericValue _ => "non_numeric_value"
  | .malformedRange _ => "malformed_range"
  | .unsupportedValue _ => "unsupported_value"

/-- What was refused. -/
def detail : Refusal → String
  | .unrecognizedField raw | .unrecognizedOperator raw | .unrecognizedJoiner raw => raw
  | .missingAttribute field => label field
  | .nonNumericTarget raw | .malformedRange raw => raw
  | .nonNumericValue shown => shown
  | .unsupportedValue json => json

/-- The refusal in words. -/
def message (r : Refusal) : String :=
  match r with
  | .unrecognizedField _ => "unrecognized field '" ++ r.detail ++ "'"
  | .unrecognizedOperator _ => "unrecognized operator '" ++ r.detail ++ "'"
  | .unrecognizedJoiner _ => "unrecognized joiner '" ++ r.detail ++ "'"
  | .missingAttribute _ => "profile has no value for " ++ r.detail
  | .nonNumericTarget _ => "rule value '" ++ r.detail ++ "' is not a number"
  | .nonNumericValue _ => "profile value '" ++ r.detail ++ "' is not a number"
  | .malformedRange _ => "rule value '" ++ r.detail ++ "' is not a 'min-max' range"
  | .unsupportedValue _ => "rule value " ++ r.detail ++ " is neither text nor a number"

/-- The JSON object of a refusal. -/
def toJson (r : Refusal) : Json :=
  .object [("kind", .text r.kind), ("detail", .text r.detail)]

end Refusal

/-! ### Comparisons -/

/-- An operator with what it compares with. Texts are compared in lower case. -/
inductive Comparison where
  | equals (target : String)
  | notEquals (target : String)
  | lessThan (target : Binary64)
  | greaterThan (target : Binary64)
  | between (min max : Binary64)
  | includes (target : String)
  deriving DecidableEq

/-- The two numbers that a text with one hyphen gives. -/
def rangeOfText? (raw : String) : Option (Binary64 × Binary64) :=
  match Text.parts '-' raw.toList with
  | [low, high] => do
    let min ← numberOfText? (String.ofList low)
    let max ← numberOfText? (String.ofList high)
    return (min, max)
  | _ => none

/-- Holds when the first text stands somewhere in the second. -/
def occursIn (part : List Char) : List Char → Bool
  | [] => part.isEmpty
  | c :: cs => part.isPrefixOf (c :: cs) || occursIn part cs

namespace Comparison

/-- Reads an operator's value. -/
def read (operator : Operator) (raw : String) : Except Refusal Comparison :=
  match operator with
  | .equals => .ok (.equals (Text.lowered raw))
  | .notEquals => .ok (.notEquals (Text.lowered raw))
  | .includes => .ok (.includes (Text.lowered raw))
  | .lessThan =>
    match numberOfText? raw with
    | some x => .ok (.lessThan x)
    | none => .error (.nonNumericTarget raw)
  | .greaterThan =>
    match numberOfText? raw with
    | some x => .ok (.greaterThan x)
    | none => .error (.nonNumericTarget raw)
  | .between =>
    match rangeOfText? raw with
    | some (min, max) => .ok (.between min max)
    | none => .error (.malformedRange raw)

/-- An attribute as a number, or the refusal to compare it as one. -/
def numberOf (a : Attribute) : Except Refusal Binary64 :=
  match a.number? with
  | some x => .ok x
  | none => .error (.nonNumericValue a.shown)

/-- Whether the comparison holds of an attribute. -/
def test (c : Comparison) (a : Attribute) : Except Refusal Bool :=
  match c with
  | .equals target => .ok (Text.lowered a.shown = target)
  | .notEquals target => .ok (Text.lowered a.shown ≠ target)
  | .includes target => .ok (occursIn target.toList (Text.lowered a.shown).toList)
  | .lessThan target => (numberOf a).map fun x => x < target
  | .greaterThan target => (numberOf a).map fun x => target < x
  | .between min max => (numberOf a).map fun x => min ≤ x && x ≤ max

end Comparison

end Entitlement
