import Entitlement.Assessment
import Entitlement.Config.Address
import Entitlement.Service.Basic

/-!
# Settings

What a deployment sets by variables of the environment: where it listens, what it logs, and how it
matches. Variables that are absent have defaults. Numbers may have a plus sign, zeros in front and
blanks around them; of several faulty variables the first in order is reported.
-/

namespace Entitlement

/-! ### Clocks -/

/-- A source of today's date: the system's clock, or a date that was set. -/
inductive Clock where
  | system
  | fixed (date : Date)
  deriving DecidableEq

/-- Today's date, where `now` is the date on the system's clock. -/
def Clock.today (now : Date) : Clock → Date
  | .system => now
  | .fixed date => date

/-! ### Variables and settings -/

/-- The variables of the environment, by name. -/
abbrev Variables := String → Option String

/-- The variables that are looked at. -/
def variableNames : List String :=
  ["APP_ENV", "APP_HOST", "APP_PORT", "APP_LOG_LEVEL", "RUST_LOG", "ELIGIBILITY_PARTIAL_THRESHOLD",
   "ELIGIBILITY_CLOCK_DATE", "ELIGIBILITY_DEADLINE_WINDOW_DAYS"]

/-- The stage of a deployment. -/
inductive Stage where
  | development
  | test
  | production
  deriving DecidableEq

/-- How schemes are matched. -/
structure MatchingSettings where
  threshold : Nat := defaultThreshold
  clock : Clock := .system
  window : Nat := defaultWindow
  deriving DecidableEq

/-- All settings of a deployment. -/
structure Settings where
  stage : Stage := .development
  host : String := "127.0.0.1"
  port : UInt16 := 3000
  logLevel : String := "info"
  matching : MatchingSettings := {}
  deriving DecidableEq

/-- Which setting cannot be used, with its value where the message shows it. -/
inductive SettingsError where
  | invalidPort
  | invalidHost
  | invalidThreshold (value : String)
  | invalidClockDate (value : String)
  | invalidWindow (value : String)
  deriving DecidableEq

/-- The largest number of days in which a deadline can count as near. -/
def maxWindow : Nat := 3650

/-- The message for a setting that cannot be used. -/
def SettingsError.message : SettingsError → String
  | .invalidPort => "APP_PORT must be a valid u16"
  | .invalidHost => "APP_HOST must parse to an IPv4 or IPv6 address"
  | .invalidThreshold value =>
    "ELIGIBILITY_PARTIAL_THRESHOLD must be an integer between 0 and 100 (got '" ++ value ++ "')"
  | .invalidClockDate value =>
    "ELIGIBILITY_CLOCK_DATE must be formatted as YYYY-MM-DD (got '" ++ value ++ "')"
  | .invalidWindow value =>
    "ELIGIBILITY_DEADLINE_WINDOW_DAYS must be a whole number of days up to " ++
      toString maxWindow ++ " (got '" ++ value ++ "')"

/-! ### Reading -/

/-- The natural number up to `most` that a setting gives, blanks around it aside. -/
def settingUpTo? (most : Nat) (raw : String) : Option Nat :=
  (Decimal.natOfText? (Text.trim raw.toList)).filter (· ≤ most)

/-- The stage that a setting names; any other name is development. -/
def Stage.ofText (raw : String) : Stage :=
  let is (name : String) := Text.sameIgnoringAsciiCase (Text.trimmed raw) name
  if is "prod" || is "production" then .production
  else if is "test" || is "ci" then .test
  else .development

/-- The clock that a setting gives: a date, or the system's clock where it is blank. -/
def Clock.ofText (raw : String) : Except SettingsError Clock :=
  let cs := Text.trim raw.toList
  if cs.isEmpty then .ok .system
  else
    match Date.readPlain cs with
    | .ok date => .ok (.fixed date)
    | .error _ => .error (.invalidClockDate raw)

/-- A setting as its reader gives it, or the default where the variable is absent. -/
def settingOr {α : Type} (default : α) (read : String → Except SettingsError α) :
    Option String → Except SettingsError α
  | some raw => read raw
  | none => .ok default

namespace MatchingSettings

/-- Reads the settings of matching. -/
def ofVariables (env : Variables) : Except SettingsError MatchingSettings := do
  let threshold ← settingOr defaultThreshold
    (fun raw => (settingUpTo? 100 raw).elim (.error (.invalidThreshold raw)) .ok)
    (env "ELIGIBILITY_PARTIAL_THRESHOLD")
  let clock ← settingOr .system Clock.ofText (env "ELIGIBILITY_CLOCK_DATE")
  let window ← settingOr defaultWindow
    (fun raw => (settingUpTo? maxWindow raw).elim (.error (.invalidWindow raw)) .ok)
    (env "ELIGIBILITY_DEADLINE_WINDOW_DAYS")
  return { threshold, clock, window }

/-- A service on the given stores with these settings. -/
def service (m : MatchingSettings) (profiles : ProfileStore) (schemes : SchemeStore)
    (now : Date) : Service where
  profiles := profiles
  schemes := schemes
  today := m.clock.today now
  threshold := m.threshold
  window := m.window

end MatchingSettings

namespace Settings

/-- Reads all settings. The host is looked at only when it is needed. -/
def ofVariables (env : Variables) : Except SettingsError Settings := do
  let port ← settingOr 3000
    (fun raw => (settingUpTo? 65535 raw).elim (.error .invalidPort) (.ok ∘ UInt16.ofNat))
    (env "APP_PORT")
  let matching ← MatchingSettings.ofVariables env
  return { stage := (env "APP_ENV").elim .development Stage.ofText
           host := (env "APP_HOST").getD "127.0.0.1"
           port
           logLevel := (env "APP_LOG_LEVEL").getD "info"
           matching }

/-- Where the service listens. The host is an address or the name of the machine itself. -/
def socketAddress (s : Settings) : Except SettingsError SocketAddress :=
  if Text.sameIgnoringAsciiCase s.host "localhost" then .ok ⟨.localhost, s.port⟩
  else
    match IpAddress.ofText? s.host with
    | some ip => .ok ⟨ip, s.port⟩
    | none => .error .invalidHost

end Settings

end Entitlement
