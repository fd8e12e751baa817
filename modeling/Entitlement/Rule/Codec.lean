import Entitlement.Json.Outline
import Entitlement.Json.Printer
import Entitlement.Json.Record
import Entitlement.Rule.Basic

/-!
# Rules in JSON

Terms are their labels. A rule value is a text; numbers, truth values and null are read as the text
they are written with, null as the empty text, and arrays and objects as their compact JSON text.
A group without a joiner asks for all of its rows.
-/

namespace Entitlement

open Json

/-! ### Terms -/

/-- Reads a term from its label. -/
def Term.ofJson {α : Type} [Vocabulary α] : Reader (Term α) := fun v =>
  Term.read <$> readText v

/-- The label of a term, or the text that was none. -/
def Term.toJson {α : Type} [Vocabulary α] (t : Term α) : Json :=
  .text t.text

/-! ### Rule values -/

/-- The rule value that a JSON value stands for. -/
def RuleValue.ofJson : Json → RuleValue
  | .text s => .text s
  | .number n => .text n.text
  | .bool b => .text (toString b)
  | .null => .text ""
  | v => .unsupported v.compact

/-- The JSON value of a rule value: its text, or the value that its JSON text spells. -/
def RuleValue.toJson : RuleValue → Json
  | .text s => .text s
  | .unsupported raw =>
    match Json.parse raw with
    | .ok v => v
    | .error _ => .text raw

/-! ### Conditions -/

/-- Reads a condition. -/
def Condition.ofJson : Reader Condition
  | .object members => do
    let field ← readMember members "field" Term.ofJson
    let operator ← readMember members "operator" Term.ofJson
    let value ← readMember members "value" (.ok ∘ RuleValue.ofJson)
    return ⟨← required "field" field, ← required "operator" operator, ← required "value" value⟩
  | .array items => do
    let shape := "struct Condition with 3 elements"
    let field ← readItem shape items 0 Term.ofJson
    let operator ← readItem shape items 1 Term.ofJson
    let value ← readItem shape items 2 (.ok ∘ RuleValue.ofJson)
    checkLength items 3
    return ⟨field, operator, value⟩
  | v => wrongType v "struct Condition"

/-- The JSON object of a condition. -/
def Condition.toJson (c : Condition) : Json :=
  .object [("field", c.field.toJson), ("operator", c.operator.toJson), ("value", c.value.toJson)]

/-! ### Groups and rulesets -/

/-- Reads a group. -/
def Group.ofJson : Reader Group
  | .object members => do
    let joiner ← readMember members "joiner" Term.ofJson
    let rows ← readMember members "rows" (readList Condition.ofJson)
    return ⟨joiner.getD (.known .all), rows.getD []⟩
  | .array items => do
    let joiner ← readItemOr (.known .all) items 0 Term.ofJson
    let rows ← readItemOr [] items 1 (readList Condition.ofJson)
    checkLength items 2
    return ⟨joiner, rows⟩
  | v => wrongType v "struct ConditionGroup"

/-- The JSON object of a group. -/
def Group.toJson (g : Group) : Json :=
  .object [("joiner", g.joiner.toJson), ("rows", .array (g.rows.map Condition.toJson))]

/-- Reads a ruleset. -/
def Ruleset.ofJson : Reader Ruleset :=
  readList Group.ofJson

/-- The JSON array of a ruleset. -/
def Ruleset.toJson (r : Ruleset) : Json :=
  .array (r.map Group.toJson)

end Entitlement
