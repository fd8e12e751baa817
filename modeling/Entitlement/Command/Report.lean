import Entitlement.Json.Printer
import Entitlement.Service.Publishing

/-!
# Reports

The results of a profile and the outcome of publishing a scheme, as lines of text and as JSON. The
JSON of results has its members in ascending order, that of an outcome in the order of its fields.
-/

namespace Entitlement.Report

/-! ### Results -/

/-- The lines of one scheme and of what is missing for it. -/
def entryLines (e : SchemeEntry) : List String :=
  ("  - " ++ e.name ++ " [" ++ e.id ++ "] score " ++ toString e.score) ::
    e.missing.map ("      missing: " ++ ·)

/-- The lines of a band, none when it holds no scheme. -/
def bandLines (title : String) (entries : List SchemeEntry) : List String :=
  if entries.isEmpty then [] else (title ++ ":") :: entries.flatMap entryLines

/-- The lines of a profile's results. -/
def resultLines (profileId : String) (today : Date) (r : SchemeResults) : List String :=
  ["",
   "Profile " ++ profileId ++ " (evaluated " ++ today.text ++ "): " ++
     toString r.eligibleCount ++ " eligible | " ++ toString r.partlyCount ++ " partial | " ++
     toString r.notEligibleCount ++ " not eligible"] ++
  bandLines "Eligible" r.eligible ++
  bandLines "Partial match" r.partly ++
  bandLines "Not eligible" r.notEligible ++
  if 0 < r.degraded then
    ["  " ++ toString r.degraded ++ " schemes contain conditions that could not be evaluated"]
  else []

/-- The JSON object of a profile's results. -/
def resultJson (profileId : String) (r : SchemeResults) : Json :=
  .object [("profile_id", .text profileId), ("results", r.toJson)]

/-! ### Outcomes -/

/-- The lines of the outcome of publishing a scheme. -/
def outcomeLines (today : Date) (o : PublishOutcome) : List String :=
  ["Published " ++ o.schemeId ++ " on " ++ today.text ++ ": " ++ toString o.totalMatches ++
    " of " ++ toString o.evaluated ++ " profiles fully eligible"] ++
  (if 0 < o.degraded then
    ["- " ++ toString o.degraded ++ " profiles hit conditions that could not be evaluated"]
  else []) ++
  o.warnings.map ("- warning: " ++ ·) ++
  o.matchedProfiles.map ("  - " ++ ·)

/-- Lines as a text, each with a line end. -/
def textOfLines (lines : List String) : String :=
  String.join (lines.map (· ++ "\n"))

end Entitlement.Report
