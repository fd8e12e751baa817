import Entitlement.Json.Shape
import Entitlement.Profile
import Entitlement.Rule.Codec

/-!
# Requests for a check

The body of a request to check a profile against conditions that belong to no scheme. It is read
straight into its shape, so a field may not be repeated, and the conditions may be absent.
-/

namespace Entitlement

open Json

/-! ### Shapes -/

/-- The shape of a profile. -/
def Profile.shape : Shape :=
  let text := Shape.scalar (readOptional readText).accepts
  let number := Shape.scalar (readOptional readNumber).accepts
  .record
    [("id", .scalar readText.accepts),
     ("role", .variant (Role.variants.map Prod.fst)),
     ("annualIncome", number),
     ("dateOfBirth", text),
     ("age", .scalar (readOptional readWord).accepts),
     ("category", text),
     ("state", text),
     ("educationLevel", text),
     ("gender", text),
     ("minorityStatus", text),
     ("disabilityStatus", text),
     ("institutionType", text),
     ("marksPercentage", number)]
    Profile.ofJson.accepts

/-- The shape of a condition. -/
def Condition.shape : Shape :=
  let text := Shape.scalar readText.accepts
  .record [("field", text), ("operator", text), ("value", .anything)] Condition.ofJson.accepts

/-- The shape of a group. -/
def Group.shape : Shape :=
  .record [("joiner", .scalar readText.accepts), ("rows", .list Condition.shape)]
    Group.ofJson.accepts

/-! ### Requests -/

/-- A request for a check. -/
structure CheckRequest where
  profile : Profile
  conditions : Ruleset
  deriving DecidableEq

namespace CheckRequest

/-- Reads a request from a value. -/
def ofJson : Reader CheckRequest
  | .object members => do
    let profile ← readMember members "profile" Profile.ofJson
    let conditions ← readMember members "conditions" Ruleset.ofJson
    return ⟨← required "profile" profile, conditions.getD []⟩
  | .array items => do
    let profile ← readItem "struct with 2 elements" items 0 Profile.ofJson
    let conditions ← readItemOr [] items 1 Ruleset.ofJson
    checkLength items 2
    return ⟨profile, conditions⟩
  | v => wrongType v "struct"

/-- The shape of a request. -/
def shape : Shape :=
  .record [("profile", Profile.shape), ("conditions", .list Group.shape)] ofJson.accepts

/-- Reads a request from the symbols of a body. -/
def ofSymbols (cs : List Text.Symbol) : Except ShapeError CheckRequest := do
  let v ← readShape shape cs
  match ofJson v with
  | .ok request => return request
  | .error _ => .error .mismatch

end CheckRequest

end Entitlement
