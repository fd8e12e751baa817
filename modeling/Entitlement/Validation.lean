import Entitlement.Check.Comparison
import Entitlement.Rule.Basic

/-!
# Validation of rulesets

Mistakes of authors. An error makes a row or group unmeetable; a warning says that a value is none
of the options of its field. Assessment never asks for validity.
-/

namespace Entitlement

/-- How grave an issue is. -/
inductive Severity where
  | error
  | warning
  deriving DecidableEq

/-- The name of a severity, as written in JSON. -/
def Severity.name : Severity → String
  | .error => "error"
  | .warning => "warning"

/-- What is wrong in a ruleset. -/
inductive IssueKind where
  | emptyGroup
  | unrecognizedJoiner (joiner : String)
  | unrecognizedField (field : String)
  | unrecognizedOperator (operator : String)
  | nonNumericValue (value : String)
  | malformedRange (value : String)
  | unsupportedValue (value : String)
  | unlistedValue (field : Field) (value : String)
  deriving DecidableEq

namespace IssueKind

/-- An unlisted value is a warning and all else an error. -/
def severity : IssueKind → Severity
  | .unlistedValue _ _ => .warning
  | _ => .error

/-- The kind in words. -/
def message : IssueKind → String
  | .emptyGroup => "group has no conditions"
  | .unrecognizedJoiner joiner => "joiner '" ++ joiner ++ "' must be AND or OR"
  | .unrecognizedField field => "unknown field '" ++ field ++ "'"
  | .unrecognizedOperator operator => "unknown operator '" ++ operator ++ "'"
  | .nonNumericValue value => "value '" ++ value ++ "' must be a number"
  | .malformedRange value => "value '" ++ value ++ "' must look like 'min-max'"
  | .unsupportedValue value => "value " ++ value ++ " must be text or a number"
  | .unlistedValue field value => "'" ++ value ++ "' is not a listed option for " ++ label field

/-- The kind and what it is about, as members of a JSON object. -/
def members : IssueKind → List (String × Json)
  | .emptyGroup => [("kind", .text "empty_group")]
  | .unrecognizedJoiner joiner => [("kind", .text "unrecognized_joiner"), ("joiner", .text joiner)]
  | .unrecognizedField field => [("kind", .text "unrecognized_field"), ("field", .text field)]
  | .unrecognizedOperator operator =>
    [("kind", .text "unrecognized_operator"), ("operator", .text operator)]
  | .nonNumericValue value => [("kind", .text "non_numeric_value"), ("value", .text value)]
  | .malformedRange value => [("kind", .text "malformed_range"), ("value", .text value)]
  | .unsupportedValue value => [("kind", .text "unsupported_value"), ("value", .text value)]
  | .unlistedValue field value =>
    [("kind", .text "unlisted_value"), ("field", .text (label field)), ("value", .text value)]

end IssueKind

/-- An issue, with the places of its group and of its row, counted from 0. An issue of a whole
group has no row. -/
structure Issue where
  group : Nat
  row : Option Nat
  kind : IssueKind
  deriving DecidableEq

namespace Issue

/-- Holds when the rule can never be met as written. -/
def isError (i : Issue) : Bool :=
  i.kind.severity = .error

/-- The issue in words, with places counted from 1. -/
def message (i : Issue) : String :=
  let row := (i.row.map fun r => ", row " ++ toString (r + 1)).getD ""
  "group " ++ toString (i.group + 1) ++ row ++ ": " ++ i.kind.message

/-- The JSON object of an issue. -/
def toJson (i : Issue) : Json :=
  .object
    ([("group", .nat i.group)] ++ (i.row.map fun r => ("row", Json.nat r)).toList ++
      [("severity", .text i.kind.severity.name)] ++ i.kind.members)

end Issue

/-! ### Finding issues -/

/-- The issue of a value that the operator cannot read. -/
def valueIssue? (operator : Operator) (value : String) : Option IssueKind :=
  match Comparison.read operator value with
  | .error (.malformedRange raw) => some (.malformedRange raw)
  | .error (.nonNumericTarget raw) => some (.nonNumericValue raw)
  | _ => none

/-- The warning for a value that is none of the options of its field, where it is asked for as a
whole. -/
def optionIssue? (field : Field) (operator : Operator) (value : String) : Option IssueKind :=
  if operator = .equals ∨ operator = .notEquals then
    if field.options.isEmpty ||
        field.options.any (Text.sameIgnoringAsciiCase · (Text.trimmed value)) then none
    else some (.unlistedValue field value)
  else none

/-- The issues of a condition. An unrecognized operator or an unsupported value ends the search. -/
def Condition.issues (c : Condition) : List IssueKind :=
  let fieldIssues :=
    match c.field with
    | .known _ => []
    | .unrecognized raw => [.unrecognizedField raw]
  fieldIssues ++
    match c.operator with
    | .unrecognized raw => [.unrecognizedOperator raw]
    | .known operator =>
      match c.value with
      | .unsupported json => [.unsupportedValue json]
      | .text value =>
        (valueIssue? operator value).toList ++
          (c.field.known?.bind fun field => optionIssue? field operator value).toList

/-- The issues of a group as a whole. -/
def Group.ownIssues (g : Group) : List IssueKind :=
  (match g.joiner with
    | .known _ => []
    | .unrecognized raw => [.unrecognizedJoiner raw]) ++
  if g.rows.isEmpty then [.emptyGroup] else []

/-- The issues of the group at a place: its own, and then those of its rows in order. -/
def Group.issues (g : Group) (place : Nat) : List Issue :=
  g.ownIssues.map (⟨place, none, ·⟩) ++
    g.rows.zipIdx.flatMap fun (c, row) => c.issues.map (⟨place, some row, ·⟩)

/-- The issues of a ruleset, group by group. -/
def Ruleset.issues (r : Ruleset) : List Issue :=
  r.zipIdx.flatMap fun (g, place) => g.issues place

end Entitlement
