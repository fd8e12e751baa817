import Entitlement.Http.CheckRequest
import Entitlement.Http.MediaType
import Entitlement.Http.Response
import Entitlement.Http.Target
import Entitlement.Service.Dashboard
import Entitlement.Service.Publishing

/-!
# Routing of requests

Which request asks for what, and its response. The path decides what is asked for; only then the
method has to fit, and after it the id in the path has to be a text.
-/

namespace Entitlement.Http

/-- A request, whose body is given by its symbols. -/
structure Request where
  method : String
  target : String
  contentType : Option String := none
  body : List Text.Symbol := []

/-- What a path asks for. Ids are as written in the path. -/
inductive Route where
  | check
  | results (id : String)
  | dashboard (id : String)
  | publish (id : String)
  | recordedMatches (id : String)
  | health
  | readiness
  | metrics
  deriving DecidableEq

/-- The route of a path, by its parts. An id at the end of a path is not empty. -/
def Route.ofParts? : List String → Option Route
  | ["api", "v2", "eligibility"] => some .check
  | ["api", "v2", "eligibility", id] => if id.isEmpty then none else some (.results id)
  | ["api", "v1", "dashboard", id] => if id.isEmpty then none else some (.dashboard id)
  | ["api", "v1", "admin", "schemes", id, "publish"] => some (.publish id)
  | ["api", "v1", "admin", "schemes", id, "matches"] => some (.recordedMatches id)
  | ["health"] => some .health
  | ["ready"] => some .readiness
  | ["metrics"] => some .metrics
  | _ => none

/-- Holds of the routes that are asked for with POST; the others are asked for with GET. -/
def Route.isPosted : Route → Bool
  | .check | .publish _ => true
  | _ => false

/-- Holds when the method fits the route. The head alone can be asked for wherever GET fits. -/
def Route.allows (r : Route) (method : String) : Bool :=
  if r.isPosted then method = "POST" else method = "GET" || method = "HEAD"

/-- A server: its service, and whether it takes requests already. -/
structure Server where
  service : Service
  ready : Bool := false
  /-- How the framework words what is wrong with a request that it cannot take apart. -/
  details : Request → String

namespace Server

/-- The response to a request for a check, whose content type is looked at before its body. -/
def checked (s : Server) (r : Request) : Response :=
  if !((r.contentType.bind MediaType.ofText?).elim false MediaType.isJson) then
    .plain 415 "Expected request with `Content-Type: application/json`"
  else
    match CheckRequest.ofSymbols r.body with
    | .ok request => .json 200 (s.service.check request.profile request.conditions).toJson
    | .error .notJson =>
      .plain 400 ("Failed to parse the request body as JSON: " ++ s.details r)
    | .error .mismatch =>
      .plain 422 ("Failed to deserialize the JSON body into the target type: " ++ s.details r)

/-- The response that depends on the id in the path of a request, if it is a text. -/
def withId (s : Server) (r : Request) (id : String) (respond : String → Response × Server) :
    Response × Server :=
  match percentDecoded? id with
  | some id => respond id
  | none => (.plain 400 ("Invalid URL: " ++ s.details r), s)

/-- The response of a route, and the server after it. -/
def respondTo (s : Server) (r : Request) : Route → Response × Server
  | .check => (s.checked r, s)
  | .results id =>
    s.withId r id fun id => (.ofAnswer SchemeResults.toJson (s.service.results id), s)
  | .dashboard id =>
    s.withId r id fun id => (.ofAnswer Dashboard.toJson (s.service.dashboard id), s)
  | .publish id =>
    s.withId r id fun id =>
      let (answer, service) := s.service.publish id
      (.ofAnswer PublishOutcome.toJson answer, { s with service })
  | .recordedMatches id =>
    s.withId r id fun id => (.ofAnswer SchemeMatches.toJson (s.service.recordedMatches id), s)
  | .health => (.json 200 (.object [("status", .text "ok")]), s)
  | .readiness =>
    (if s.ready then .json 200 (.object [("status", .text "ready")])
      else .json 503 (.object [("status", .text "initializing")]), s)
  | .metrics => (⟨200, some "text/plain; version=0.0.4", .text ""⟩, s)

/-- The response to a request, and the server after it. -/
def respond (s : Server) (r : Request) : Response × Server :=
  match Route.ofParts? (pathParts r.target) with
  | none => (.bare 404, s)
  | some route =>
    if !route.allows r.method then (.bare 405, s)
    else
      let (response, s) := s.respondTo r route
      (if r.method = "HEAD" then response.head else response, s)

end Server

end Entitlement.Http
