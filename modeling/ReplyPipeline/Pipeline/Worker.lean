import ReplyPipeline.Pipeline.Idempotency
import ReplyPipeline.Retry

/-!
# The worker

A worker handles one delivery after the other until a stop signal is given. When its stream breaks
off it rests for a while and connects anew. It looks at the signal only where it waits: a delivery
that it has begun to handle is handled to its end.
-/
namespace ReplyPipeline

/-!
## Attempts at a task

A delivery is processed, its reply is posted, and then it is settled exactly once: acknowledged
when the task is completed or has been published again for another attempt, rejected when it is
given up or is no task at all. For another attempt the worker holds the delivery back for the delay
and publishes the task with one more failed attempt. If that fails the delivery is rejected, so
that a broker that refuses publications cannot keep a task going round.
-/

inductive DeliveryOutcome where
  | completed
  /-- Published again, with a number of failed attempts. -/
  | retried (attempt : UInt32)
  /-- Given up after a number of failed attempts. -/
  | deadLettered (attempts : UInt32)
  /-- The octets were no envelope. -/
  | malformed
  deriving DecidableEq, Repr

inductive AttemptError where
  | processing (cause : ProcessingError)
  | reply (cause : ReplyError)
  deriving DecidableEq, Repr

def AttemptError.message : AttemptError → String
  | .processing cause => cause.message
  | .reply cause => cause.message

/-- What the marker of a completed task says. -/
def ResponseMode.resultTag : ResponseMode → String
  | .autoRespond => "replied"
  | .assistAgent => "private_note"
  | .manualTrigger => "generated"
  | .unknown => "generated"

/-- The settings by which tasks are attempted. -/
structure TaskHandler where
  idempotency : Idempotency := {}
  retry : RetryPolicy := .standard
  /-- How long a call of the processing function may take. -/
  processingLimit : Option Span := some (Span.seconds 120)
  deriving DecidableEq, Repr

namespace TaskHandler

/-- The reply that the processing function makes. -/
def runProcessor (x : TaskHandler) (e : Envelope) : Action (Except ProcessingError String) := do
  match ← Action.process e x.processingLimit with
  | .reply text => return .ok text
  | .failed cause => return .error cause
  | .panicked p => return .error (.panicked p.message)
  | .tooLate => return .error (.timeout (x.processingLimit.getD Span.longest))

/-- Posts a reply as the mode of the task asks. -/
def post (e : Envelope) (reply : String) : Action (Except AttemptError Unit) := do
  match e.responseMode.delivery? with
  | some isPrivate =>
    return (← Action.reply e.tenant e.conversation reply isPrivate).mapError .reply
  | none => return .ok ()

def attempt (x : TaskHandler) (e : Envelope) : Action (Except AttemptError Unit) := do
  match ← x.runProcessor e with
  | .ok reply => post e reply
  | .error cause => return .error (.processing cause)

/-- Sets the marker and acknowledges. -/
def complete (x : TaskHandler) (d : Broker.Delivery) (e : Envelope) : Action DeliveryOutcome := do
  let _ ← x.idempotency.markProcessed e.correlationId e.responseMode.resultTag
  let _ ← Action.settle d.id .ack
  Action.tally .succeeded
  return .completed

/-- Rejects the delivery and releases the lock of its task. -/
def giveUp (x : TaskHandler) (d : Broker.Delivery) (id : CorrelationId) (attempts : UInt32) :
    Action DeliveryOutcome := do
  let _ ← Action.settle d.id .reject
  let _ ← x.idempotency.releaseLock id
  Action.tally .deadLettered
  return .deadLettered attempts

/-- Publishes the task again after a delay, and gives it up if that fails. -/
def tryAgain (x : TaskHandler) (d : Broker.Delivery) (e : Envelope) (attempt : UInt32)
    (delay : Span) : Action DeliveryOutcome := do
  Action.pause delay
  match ← Action.publish e.recordFailure none with
  | some (.ok ()) =>
    let _ ← Action.settle d.id .ack
    Action.tally .retried
    return .retried attempt
  | _ => x.giveUp d e.correlationId attempt

/-- What is done after a failed attempt. -/
def fail (x : TaskHandler) (d : Broker.Delivery) (e : Envelope) : Action DeliveryOutcome :=
  match x.retry.decide (Envelope.saturatingSucc e.attempts) with
  | .retry attempt delay => x.tryAgain d e attempt delay
  | .giveUp attempts => x.giveUp d e.correlationId attempts

/-- Rejects octets that are no envelope. The lock of the id that travels beside them, if there is
one, is released. -/
def discard (x : TaskHandler) (d : Broker.Delivery) : Action DeliveryOutcome := do
  let _ ← Action.settle d.id .reject
  match d.message.correlationId.map CorrelationId.ofText with
  | some (.ok id) =>
    let _ ← x.idempotency.releaseLock id
    Action.tally .malformed
  | _ => Action.tally .malformed
  return .malformed

def handle (x : TaskHandler) (d : Broker.Delivery) : Action DeliveryOutcome := do
  Action.tally .processed
  match Envelope.ofBytes d.message.body with
  | .error _ => x.discard d
  | .ok e =>
    match ← x.attempt e with
    | .ok () => x.complete d e
    | .error _ => x.fail d e

end TaskHandler

/-!
## Phases

The worker runs without end, so it is given as phases, each of which is a finite program that
leads to the next one.
-/

/-- What a worker is about to do. -/
inductive WorkerPhase where
  | connecting
  /-- Wait for the next delivery to its consumer. -/
  | streaming (c : Broker.ConsumerId)
  | resting
  | stopped
  deriving DecidableEq, Repr

structure Worker where
  handler : TaskHandler := {}
  /-- How long it rests. -/
  reconnectDelay : Span := Span.seconds 5
  deriving DecidableEq, Repr

namespace Worker

/-- Declares the topology and starts a consumer. -/
def connect : Action WorkerPhase := do
  match ← Action.declareTopology none with
  | some (.ok ()) =>
    match ← Action.consume with
    | .ok c => return .streaming c
    | .error _ => return .resting
  | _ => return .resting

def disconnect (c : Broker.ConsumerId) : Action WorkerPhase := do
  Action.leave c
  return .resting

/-- One phase; answers the next one. -/
def step (w : Worker) (stop : StopSignal) : WorkerPhase → Action WorkerPhase
  | .connecting => do
    if ← Action.isStopped stop then return .stopped else connect
  | .streaming c => do
    match ← Action.next c (some stop) none with
    | .delivery d =>
      let _ ← w.handler.handle d
      Action.drop d.id
      return .streaming c
    | _ => disconnect c
  | .resting => do
    if ← Action.isStopped stop then return .stopped
    else if ← Action.pauseUnlessStopped w.reconnectDelay stop then return .stopped
    else return .connecting
  | .stopped => return .stopped

end Worker
end ReplyPipeline
