import Entitlement.Command.ApplicationError
import Entitlement.Command.Options
import Entitlement.Command.Report
import Entitlement.Config.LogFilter

/-!
# Running commands

A run reads the settings, then the log filter, then the exports, and only then does what it was
asked for. The first error ends it; what was printed before stays printed.
-/

namespace Entitlement.Command

/-- What the program finds at a path. -/
inductive FoundFile where
  | file (bytes : List UInt8)
  | directory
  | unreadable (reason : String)

/-- What is found at a path that leads nowhere. -/
def FoundFile.missing : FoundFile := .unreadable "No such file or directory (os error 2)"

/-- What a run may look at. -/
structure Surroundings where
  env : Variables
  files : String → FoundFile
  /-- How exports that are no JSON are complained about. -/
  wording : FaultWording
  /-- The date on the system's clock. -/
  now : Date

/-- How a run ends. -/
inductive Ending where
  | done
  /-- The command line is not well formed. -/
  | misused
  | failed (e : ApplicationError)
  /-- The service is ready to listen. -/
  | listening (address : SocketAddress) (service : Service)

/-- A run: what it prints, and how it ends. -/
structure Run where
  output : String
  ending : Ending

/-! ### Stages of a run -/

/-- The bytes of an export. A directory can be opened, but there is no JSON to be read from it. -/
def readExport (s : Surroundings) (path : String) : Except CatalogError (List UInt8) :=
  match s.files path with
  | .file bytes => .ok bytes
  | .directory => .error (.notJson "Is a directory (os error 21)")
  | .unreadable reason => .error (.unreadable reason)

/-- The records of an export, none where no path is given. Records that cannot be read are left
out. -/
def readRecords {α : Type} (s : Surroundings)
    (load : FaultWording → List UInt8 → Except CatalogError (CatalogLoad α)) :
    Option String → Except CatalogError (List α)
  | none => .ok []
  | some path => do
    let loaded ← load s.wording (← readExport s path)
    return loaded.records

/-- The stores, filled from the exports. -/
def readStores (s : Surroundings) (o : CatalogOptions) :
    Except ApplicationError (ProfileStore × SchemeStore) := do
  let profiles ← (readRecords s loadProfiles o.profiles).mapError .catalog
  let schemes ← (readRecords s loadSchemes o.schemes).mapError .catalog
  return (.ofList profiles, .ofList schemes)

/-- The settings, once the log filter is found to be valid. -/
def readSettings (s : Surroundings) (override : Settings → Settings) :
    Except ApplicationError Settings := do
  let settings ← (Settings.ofVariables s.env).mapError .settings
  let settings := override settings
  match LogFilter.choose (s.env "RUST_LOG") settings.logLevel with
  | some _ => return settings
  | none => throw (.log (.invalidFilter settings.logLevel))

/-- The settings with another date for today, if one is given. -/
def withToday (today : Option Date) (s : Settings) : Settings :=
  match today with
  | some date => { s with matching := { s.matching with clock := .fixed date } }
  | none => s

/-- The service that a report is made with. -/
def readService (s : Surroundings) (o : CatalogOptions) (today : Option Date) :
    Except ApplicationError Service := do
  let settings ← readSettings s (withToday today)
  let (profiles, schemes) ← readStores s o
  return settings.matching.service profiles schemes s.now

/-! ### Commands -/

/-- A run that fails before it prints anything. -/
def Run.ofError (e : ApplicationError) : Run := ⟨"", .failed e⟩

/-- The results of one profile, as printed. -/
def resultText (service : Service) (json : Bool) (id : String) (r : SchemeResults) : String :=
  if json then (Report.resultJson id r).sorted.indented ++ "\n"
  else Report.textOfLines (Report.resultLines id service.today r)

/-- Prints the results of one profile after the other. -/
def printResults (service : Service) (json : Bool) (printed : String) : List String → Run
  | [] => ⟨printed, .done⟩
  | id :: ids =>
    match service.results id with
    | .ok r => printResults service json (printed ++ resultText service json id r) ids
    | .error e => ⟨printed, .failed (.service e)⟩

/-- Reports the results of one profile or of all. -/
def runResults (s : Surroundings) (o : ResultsOptions) : Run :=
  match readService s o.catalog o.today with
  | .error e => .ofError e
  | .ok service =>
    match o.profileId with
    | some id => printResults service o.json "" [id]
    | none =>
      match service.profiles.all with
      | .error e => .ofError (.service (.store e))
      | .ok profiles => printResults service o.json "" (profiles.map (·.id))

/-- Publishes a scheme and reports the outcome. -/
def runPublish (s : Surroundings) (o : PublishOptions) : Run :=
  match readService s o.catalog o.today with
  | .error e => .ofError e
  | .ok service =>
    match (service.publish o.schemeId).1 with
    | .error e => .ofError (.service e)
    | .ok outcome =>
      if o.json then ⟨outcome.toJson.indented ++ "\n", .done⟩
      else ⟨Report.textOfLines (Report.outcomeLines service.today outcome), .done⟩

/-- The settings with another host or port, where they are given. -/
def ServeOptions.override (o : ServeOptions) (s : Settings) : Settings :=
  { s with host := o.host.getD s.host, port := o.port.getD s.port }

/-- Prepares the service up to the address it listens on. -/
def runServe (s : Surroundings) (o : ServeOptions) : Run :=
  let prepared : Except ApplicationError (SocketAddress × Service) := do
    let settings ← readSettings s o.override
    let (profiles, schemes) ← readStores s o.catalog
    let address ← settings.socketAddress.mapError .settings
    return (address, settings.matching.service profiles schemes s.now)
  match prepared with
  | .error e => .ofError e
  | .ok (address, service) => ⟨"", .listening address service⟩

/-- How the program is called. -/
def usage : String :=
  "usage: scheme-eligibility-api [serve | results | publish] [options]\n"

/-- Runs the program on a command line. -/
def run (s : Surroundings) (args : List String) : Run :=
  match Request.ofArgs? args with
  | none => ⟨"", .misused⟩
  | some .help => ⟨usage, .done⟩
  | some .version => ⟨"Scheme Eligibility 0.1.0\n", .done⟩
  | some (.serve o) => runServe s o
  | some (.results o) => runResults s o
  | some (.publish o) => runPublish s o

/-! ### Endings -/

/-- The error that ends a run, if one does. This program prepares the service but has no listener
of its own. -/
def Ending.error? : Ending → Option ApplicationError
  | .done | .misused => none
  | .failed e => some e
  | .listening address _ => some (.io ("no listener for " ++ address.text))

/-- The exit code of an ending. -/
def Ending.code (e : Ending) : Nat :=
  match e, e.error? with
  | .misused, _ => 2
  | _, some _ => 1
  | _, none => 0

/-- What is printed as an error at the end. -/
def Ending.complaint (e : Ending) : String :=
  match e, e.error? with
  | .misused, _ => usage
  | _, some error => "application error: " ++ error.message ++ "\n"
  | _, none => ""

end Entitlement.Command
