import Entitlement.Rule.Vocabulary

/-!
# Rules

A condition compares one field of a profile with a value. Conditions form groups, and the groups of
a scheme form its ruleset, all of whose groups have to pass.
-/

namespace Entitlement

/-- The value a condition compares with: a text, or the JSON text of an array or object, with which
nothing can be compared. -/
inductive RuleValue where
  | text (s : String)
  | unsupported (json : String)
  deriving DecidableEq

/-- The text of a rule value of either kind. -/
def RuleValue.raw : RuleValue → String
  | .text s => s
  | .unsupported json => json

/-- Holds when the rule value is the given text. -/
def RuleValue.isText (v : RuleValue) (s : String) : Bool :=
  v = .text s

/-- A row of a group. -/
structure Condition where
  field : Term Field
  operator : Term Operator
  value : RuleValue
  deriving DecidableEq

/-- The condition in words, as it stands in the list of what a profile lacks. -/
def Condition.describe (c : Condition) : String :=
  c.field.text ++ " " ++ c.operator.text ++ " " ++ c.value.raw

/-- Conditions that combine by one joiner. -/
structure Group where
  joiner : Term Joiner
  rows : List Condition
  deriving DecidableEq

/-- The group that asks for all of its rows. -/
def Group.allOf (rows : List Condition) : Group :=
  ⟨.known .all, rows⟩

/-- The group that asks for any of its rows. -/
def Group.anyOf (rows : List Condition) : Group :=
  ⟨.known .any, rows⟩

/-- The groups of a scheme, in order. -/
abbrev Ruleset := List Group

end Entitlement
