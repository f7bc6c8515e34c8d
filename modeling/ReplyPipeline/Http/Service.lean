import ReplyPipeline.Http.Message
import ReplyPipeline.Pipeline.Gateway

/-!
# The gateway's HTTP service

Events come in by `POST /chatwoot-hook`; `GET /health` says that the service runs, and `GET /ready`
whether it can work. Every answer to an event is a JSON record with a status, also when the body
is no event.
-/
namespace ReplyPipeline.Http

/-- A gateway with the name and the version under which it presents itself. -/
structure Service where
  gateway : Gateway
  name : String := "parley-gateway"
  version : String := "0.1.0"
  deriving DecidableEq, Repr

namespace Service

def bodyLimit : Nat := 2 * 1024 * 1024

/-- The refusal of a body that is no event. -/
def refusal (e : EventError) : Response :=
  .json 400 (Json.Value.ofMembers
    [("status", .string "error"), ("reason", .string e.message)]).chars

/-- The response that carries an answer of the gateway. Only a failure is no success. -/
def ofAnswer (a : GatewayAnswer) : Response :=
  .json (match a with | .failed _ => 503 | _ => 200) a.chars

def intake (s : Service) (body : Bytes) : Action Response :=
  if bodyLimit < body.length then
    return .plain 413 "Failed to buffer the request body: length limit exceeded"
  else
    match Event.ofBytes body with
    | .ok event => return ofAnswer (← s.gateway.handle event)
    | .error e => return refusal e

def health (s : Service) : Response :=
  .json 200 (Json.Value.ofMembers
    [("status", .string "ok"), ("service", .string s.name), ("version", .string s.version)]).chars

/-- The response that tells whether the service can work. -/
def ofReadiness (r : Readiness) : Response :=
  let checks := Json.Value.ofMembers [("broker", .bool r.broker), ("store", .bool r.store)]
  .json (if r.ready then 200 else 503) (Json.Value.ofMembers
    [("status", .string (if r.ready then "ready" else "degraded")), ("checks", checks)]).chars

def ready (s : Service) : Action Response := do
  return ofReadiness (← s.gateway.readiness)

/-- A resource that is only read: the body is left out if only the head is asked for. -/
def reading (method : String) (response : Action Response) : Action Response :=
  if method = "GET" then response
  else if method = "HEAD" then do return (← response).headOnly
  else return .bare 405

def respond (s : Service) (r : Request) : Action Response :=
  match r.path with
  | "/chatwoot-hook" => if r.method = "POST" then s.intake r.body else return .bare 405
  | "/health" => reading r.method (return s.health)
  | "/ready" => reading r.method s.ready
  | _ => return .bare 404

end Service
end ReplyPipeline.Http
