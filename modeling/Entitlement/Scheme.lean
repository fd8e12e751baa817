import Entitlement.Rule.Codec

/-!
# Schemes

An entry of the catalog: what a scheme is called, until when one can apply, who is entitled to it,
and which profiles were found entitled when it was last published.
-/

namespace Entitlement

open Json

/-- Where a scheme stands between drafting and expiry. -/
inductive SchemeStatus where
  | draft
  | published
  | paused
  | expired
  deriving DecidableEq

/-- The names of the statuses. -/
def SchemeStatus.variants : List (String × SchemeStatus) :=
  [("Draft", .draft), ("Published", .published), ("Paused", .paused), ("Expired", .expired)]

/-- The name of a status. -/
def SchemeStatus.name : SchemeStatus → String
  | .draft => "Draft"
  | .published => "Published"
  | .paused => "Paused"
  | .expired => "Expired"

/-- A scheme of the catalog. -/
structure Scheme where
  id : String
  name : String
  department : String := ""
  schemeType : String := "Scholarship"
  description : Option String := none
  deadline : Date
  status : SchemeStatus := .draft
  conditions : Ruleset := []
  matchedProfiles : List String := []
  totalMatches : Nat := 0
  deriving DecidableEq

namespace Scheme

/-- Holds when the scheme is published and one can still apply. -/
def isActive (s : Scheme) (today : Date) : Bool :=
  s.status = .published && today ≤ s.deadline

/-- Reads a scheme. Of several faults the one in the member with the least key is reported, and
only then a missing field. -/
def ofJson : Reader Scheme
  | .object members => do
    let conditions ← readMember members "conditions" Ruleset.ofJson
    let deadline ← readMember members "deadline" readDate
    let department ← readMember members "department" readText
    let description ← Option.join <$> readMember members "description" (readOptional readText)
    let id ← readMember members "id" readText
    let matchedProfiles ← readMember members "matchedProfiles" (readList readText)
    let name ← readMember members "name" readText
    let schemeType ← readMember members "schemeType" readText
    let status ← readMember members "status" (readVariant SchemeStatus.variants)
    let totalMatches ← readMember members "totalMatches" readSize
    let id ← required "id" id
    let name ← required "name" name
    let deadline ← required "deadline" deadline
    return { id, name, department := department.getD "",
             schemeType := schemeType.getD "Scholarship", description, deadline,
             status := status.getD .draft, conditions := conditions.getD [],
             matchedProfiles := matchedProfiles.getD [], totalMatches := totalMatches.getD 0 }
  | .array items => do
    let shape := "struct Scheme with 10 elements"
    let id ← readItem shape items 0 readText
    let name ← readItem shape items 1 readText
    let department ← readItemOr "" items 2 readText
    let schemeType ← readItemOr "Scholarship" items 3 readText
    let description ← readItemOr none items 4 (readOptional readText)
    let deadline ← readItem shape items 5 readDate
    let status ← readItemOr .draft items 6 (readVariant SchemeStatus.variants)
    let conditions ← readItemOr [] items 7 Ruleset.ofJson
    let matchedProfiles ← readItemOr [] items 8 (readList readText)
    let totalMatches ← readItemOr 0 items 9 readSize
    checkLength items 10
    return { id, name, department, schemeType, description, deadline, status, conditions,
             matchedProfiles, totalMatches }
  | v => wrongType v "struct Scheme"

/-- The JSON object of a scheme. -/
def toJson (s : Scheme) : Json :=
  .object
    [("id", .text s.id), ("name", .text s.name), ("department", .text s.department),
     ("schemeType", .text s.schemeType), ("description", (s.description.map .text).getD .null),
     ("deadline", .text s.deadline.text), ("status", .text s.status.name),
     ("conditions", Ruleset.toJson s.conditions), ("matchedProfiles", texts s.matchedProfiles),
     ("totalMatches", .nat s.totalMatches)]

end Scheme

end Entitlement
