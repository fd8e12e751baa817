import Entitlement.Service.Basic

/-!
# Responses

What a request is answered with: a status, the type of the content, and the content. Errors of the
service become a JSON object with the message.
-/

namespace Entitlement.Http

/-- The content of a response. -/
inductive Content where
  | empty
  | json (v : Json)
  | text (s : String)

/-- A response. -/
structure Response where
  status : Nat
  contentType : Option String
  content : Content

namespace Response

/-- A response without content. -/
def bare (status : Nat) : Response := ⟨status, none, .empty⟩

/-- A response with a JSON value. -/
def json (status : Nat) (v : Json) : Response := ⟨status, some "application/json", .json v⟩

/-- A response with a plain text. -/
def plain (status : Nat) (s : String) : Response :=
  ⟨status, some "text/plain; charset=utf-8", .text s⟩

/-- A response with a JSON object that gives a message. -/
def error (status : Nat) (message : String) : Response :=
  .json status (.object [("error", .text message)])

/-- The response as sent where only the head is asked for. -/
def head (r : Response) : Response := { r with content := .empty }

/-- The response to a request that the service gives no answer to. -/
def ofServiceError (e : ServiceError) : Response :=
  match e with
  | .profileNotFound _ | .schemeNotFound _ | .store .notFound => error 404 e.message
  | .invalidRuleset _ issues =>
    json 422 (.object [("error", .text e.message), ("issues", .array (issues.map Issue.toJson))])
  | .store (.unavailable _) => error 503 e.message

/-- The response to a request that is answered with a JSON value or not at all. -/
def ofAnswer {α : Type} (toJson : α → Json) : Except ServiceError α → Response
  | .ok answer => json 200 (toJson answer)
  | .error e => ofServiceError e

end Response

end Entitlement.Http
