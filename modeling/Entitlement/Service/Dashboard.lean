import Entitlement.Service.Basic

/-!
# The dashboard

What a citizen sees first: the schemes that one can apply for and is eligible for, and those whose
deadline is near. Both lists ascend by deadline; schemes with one deadline keep the order of the
catalog.
-/

namespace Entitlement

/-- A scheme that the citizen is eligible for. -/
structure DashboardScheme where
  id : String
  name : String
  department : String
  description : String
  deadline : Date
  deriving DecidableEq

/-- A deadline that is near. -/
structure UpcomingDeadline where
  id : String
  name : String
  deadline : Date
  daysRemaining : Int
  deriving DecidableEq

/-- The dashboard of a profile. -/
structure Dashboard where
  profileId : String
  today : Date
  eligible : List DashboardScheme
  upcoming : List UpcomingDeadline
  deriving DecidableEq

/-- The days from one date to another, negative if the other is earlier. -/
def Date.daysUntil (d later : Date) : Int :=
  later.dayNumber - d.dayNumber

namespace Scheme

/-- The scheme as shown on a dashboard. One without a description is described by its type and
department. -/
def onDashboard (s : Scheme) : DashboardScheme where
  id := s.id
  name := s.name
  department := s.department
  description := s.description.getD (s.schemeType ++ " by " ++ s.department)
  deadline := s.deadline

/-- The deadline of the scheme, as seen on the given day. -/
def upcomingOn (s : Scheme) (today : Date) : UpcomingDeadline where
  id := s.id
  name := s.name
  deadline := s.deadline
  daysRemaining := today.daysUntil s.deadline

end Scheme

/-- The schemes one can apply for on the given day, ascending by deadline. -/
def activeSchemes (schemes : List Scheme) (today : Date) : List Scheme :=
  (schemes.filter (·.isActive today)).mergeSort fun a b => a.deadline ≤ b.deadline

/-- The last day on which a deadline is near: the given number of days from now, or the last day
there is. -/
def Date.horizon (today : Date) (window : Nat) : Date :=
  (today.plusDays? window).getD .last

/-- The dashboard of a stored profile. -/
def Service.dashboard (s : Service) (profileId : String) : Except ServiceError Dashboard := do
  let profile ← s.profile profileId
  let schemes ← s.catalog
  let active := activeSchemes schemes s.today
  let near := active.filter fun scheme => scheme.deadline ≤ s.today.horizon s.window
  let eligible := active.filter fun scheme =>
    (scheme.conditions.assess profile s.today).verdict.isEligible
  return { profileId := profile.id
           today := s.today
           eligible := eligible.map (·.onDashboard)
           upcoming := near.map (·.upcomingOn s.today) }

/-! ### In JSON -/

/-- The JSON object of a scheme on a dashboard. -/
def DashboardScheme.toJson (s : DashboardScheme) : Json :=
  .object
    [("id", .text s.id), ("name", .text s.name), ("department", .text s.department),
     ("description", .text s.description), ("deadline", .text s.deadline.text)]

/-- The JSON object of a deadline. -/
def UpcomingDeadline.toJson (d : UpcomingDeadline) : Json :=
  .object
    [("id", .text d.id), ("name", .text d.name), ("deadline", .text d.deadline.text),
     ("days_remaining", .number (.integer d.daysRemaining))]

/-- The JSON object of a dashboard. -/
def Dashboard.toJson (d : Dashboard) : Json :=
  .object
    [("profile_id", .text d.profileId), ("today", .text d.today.text),
     ("eligible_schemes", .array (d.eligible.map DashboardScheme.toJson)),
     ("upcoming_deadlines", .array (d.upcoming.map UpcomingDeadline.toJson))]

end Entitlement
