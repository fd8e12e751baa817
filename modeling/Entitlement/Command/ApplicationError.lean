import Entitlement.Catalog
import Entitlement.Config.Settings
import Entitlement.Http.Response

/-!
# Application errors

What can end a run of the program: an error of one of its parts, whose message is shown after the
name of the part. Asked over HTTP, errors of the service keep their own response.
-/

namespace Entitlement

/-- Why logging cannot be started. -/
inductive LogError where
  | invalidFilter (filter : String)
  | notInstalled (reason : String)
  deriving DecidableEq

/-- The message for logging that cannot be started. -/
def LogError.message : LogError → String
  | .invalidFilter filter =>
    "log filter '" ++ filter ++ "' is not a valid EnvFilter directive"
  | .notInstalled reason => "failed to install tracing subscriber: " ++ reason

/-- An error that ends a run. -/
inductive ApplicationError where
  | settings (e : SettingsError)
  | log (e : LogError)
  | io (message : String)
  | server (message : String)
  | catalog (e : CatalogError)
  | service (e : ServiceError)
  deriving DecidableEq

namespace ApplicationError

/-- The name of the part that failed. -/
def part : ApplicationError → String
  | .settings _ => "configuration"
  | .log _ => "telemetry"
  | .io _ => "io"
  | .server _ => "server"
  | .catalog _ => "catalog"
  | .service _ => "matching"

/-- The message of the part that failed. -/
def cause : ApplicationError → String
  | .settings e => e.message
  | .log e => e.message
  | .io message | .server message => message
  | .catalog e => e.message
  | .service e => e.message

/-- The whole message. -/
def message (e : ApplicationError) : String :=
  e.part ++ " error: " ++ e.cause

/-- The response to a request that ends in the error. -/
def response (e : ApplicationError) : Http.Response :=
  match e with
  | .service inner => .ofServiceError inner
  | .catalog _ => .error 400 e.message
  | .settings _ | .log _ | .io _ | .server _ => .error 500 e.message

end ApplicationError

end Entitlement
