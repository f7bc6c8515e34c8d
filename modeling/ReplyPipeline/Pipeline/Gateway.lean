import ReplyPipeline.Filter
import ReplyPipeline.Pipeline.Idempotency

/-!
# The gateway

The gateway filters an event, checks that it is new, and enqueues its task. The lock is taken before
the task is published and released again if that fails, so that a broker that is down leaves no
lock behind that would block the next delivery of the event. Declaring the topology and publishing
share one deadline.
-/
namespace ReplyPipeline

inductive Ignored where
  | rejected (r : Rejection)
  /-- There is no id to tell duplicates by. -/
  | withoutId
  deriving DecidableEq, Repr

def Ignored.message : Ignored → String
  | .rejected r => r.message
  | .withoutId => "missing message id"

inductive GatewayAnswer where
  /-- The task is in the queue. -/
  | accepted (id : CorrelationId) (tenant conversation : Int64)
  | ignored (why : Ignored)
  /-- The task has been completed. -/
  | duplicate (id : CorrelationId)
  /-- The task is under way. -/
  | inProgress (id : CorrelationId)
  /-- The task did not get into the queue. -/
  | failed (id : CorrelationId)
  deriving DecidableEq, Repr

namespace GatewayAnswer

def status : GatewayAnswer → String
  | .accepted .. => "accepted"
  | .ignored _ => "ignored"
  | .duplicate _ => "duplicate"
  | .inProgress _ => "in_progress"
  | .failed _ => "error"

/-- What is said besides the name. -/
def reason? : GatewayAnswer → Option String
  | .ignored why => some why.message
  | .failed _ => some "failed to enqueue task"
  | _ => none

def correlationId? : GatewayAnswer → Option CorrelationId
  | .accepted id .. => some id
  | .ignored _ => none
  | .duplicate id => some id
  | .inProgress id => some id
  | .failed id => some id

/-- The JSON text; what there is not is left out. -/
def chars (a : GatewayAnswer) : List Char :=
  let place : List (String × List Char) :=
    match a with
    | .accepted _ tenant conversation =>
      [("tenant_id", i64Chars tenant), ("conversation_id", i64Chars conversation)]
    | _ => []
  Json.recordChars
    ([("status", Json.quoteChars a.status)] ++
      (a.reason?.map fun r => ("reason", Json.quoteChars r)).toList ++
      (a.correlationId?.map fun id => ("correlation_id", id.chars)).toList ++ place)

end GatewayAnswer

/-- Whether the broker and the store can be used. -/
structure Readiness where
  broker : Bool
  store : Bool
  deriving DecidableEq, Repr

def Readiness.ready (r : Readiness) : Bool := r.broker && r.store

structure Gateway where
  filter : Filter := {}
  idempotency : Idempotency := {}
  /-- How long enqueueing may take. -/
  enqueueLimit : Span := Span.seconds 5
  deriving DecidableEq, Repr

namespace Gateway

/-- Declares the topology and publishes, both before a deadline. -/
def enqueue (g : Gateway) (e : Envelope) : Action (Except Broker.Error Unit) := do
  let deadline := (← Action.now) + g.enqueueLimit.nanos
  match ← Action.declareTopology (some deadline) with
  | some (.ok ()) =>
    match ← Action.publish e (some deadline) with
    | some outcome => return outcome
    | none => return .error (.timeout g.enqueueLimit)
  | some (.error cause) => return .error cause
  | none => return .error (.timeout g.enqueueLimit)

/-- Enqueues the task of an event whose lock has been taken; takes the lock back if that fails. -/
def submit (g : Gateway) (event : Event) (id : CorrelationId) : Action GatewayAnswer := do
  let task := Envelope.ofEvent event id (← Action.wallClock)
  match ← g.enqueue task with
  | .ok () => return .accepted id task.tenant task.conversation
  | .error _ =>
    let _ ← g.idempotency.releaseLock id
    return .failed id

def accept (g : Gateway) (event : Event) (id : CorrelationId) : Action GatewayAnswer := do
  if ← g.idempotency.isProcessed id then return .duplicate id
  else if (← g.idempotency.tryLock id).mayProceed then g.submit event id
  else return .inProgress id

def handle (g : Gateway) (event : Event) : Action GatewayAnswer :=
  match g.filter.rejection? event, event.correlationId? with
  | some r, _ => return .ignored (.rejected r)
  | none, none => return .ignored .withoutId
  | none, some id => g.accept event id

def readiness (g : Gateway) : Action Readiness := do
  let broker ← Action.brokerHealthy
  let store ← g.idempotency.isHealthy
  return ⟨broker, store⟩

end Gateway
end ReplyPipeline
