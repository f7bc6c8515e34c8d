import ReplyPipeline.Envelope
import ReplyPipeline.Json.Decode
import ReplyPipeline.Time.Span

/-!
# Brokers

A broker moves messages from the gateway to the workers through one work queue. A message that a
worker was handed is settled once: acknowledged, which removes it, or rejected, which moves it to
the dead-letter queue. A message whose delivery goes away unsettled is handed out again.
-/
namespace ReplyPipeline

/-! ## Operations and messages -/

namespace Broker

inductive Error where
  | connection (detail : String)
  | topology (detail : String)
  | publish (detail : String)
  | nacked
  | consume (detail : String)
  | settle (detail : String)
  | timeout (limit : Span)
  deriving DecidableEq, Repr

def Error.message : Error → String
  | .connection detail => "broker connection error: " ++ detail
  | .topology detail => "topology declaration failed: " ++ detail
  | .publish detail => "publish failed: " ++ detail
  | .nacked => "publish was not confirmed by the broker"
  | .consume detail => "consume failed: " ++ detail
  | .settle detail => "settling delivery failed: " ++ detail
  | .timeout limit => "broker operation timed out after " ++ limit.text

/-- A message in a queue: its octets, the correlation id that it carries beside them, and whether
it has been handed out before. -/
structure Message where
  body : Bytes
  correlationId : Option String
  redelivered : Bool
  deriving DecidableEq, Repr

def Message.envelope? (m : Message) : Option Envelope := (Envelope.ofBytes m.body).toOption

def Message.ofEnvelope (e : Envelope) : Message :=
  ⟨e.toBytes, some e.correlationId.text, false⟩

/-- What settles a delivery. -/
inductive Settlement where
  /-- The message is done with. -/
  | ack
  /-- The message goes to the dead-letter queue. -/
  | reject
  deriving DecidableEq, Repr

abbrev DeliveryId := Nat

abbrev ConsumerId := Nat

/-- A message as it was handed out. -/
structure Delivery where
  id : DeliveryId
  message : Message
  deriving DecidableEq, Repr

end Broker

/-!
## Queues and exchange

The gateway and the workers share a durable work queue and a durable dead-letter queue, which is
bound to an exchange of its own. Both sides declare them with the same names and arguments.
-/

/-- The names of the queues and of the exchange. -/
structure Topology where
  workQueue : String := "ai_tasks_queue"
  deadLetterQueue : String := "ai_tasks_dlq"
  deadLetterExchange : String := "ai_tasks_dlx"
  deriving DecidableEq, Repr

namespace Topology

/-- The key that binds the dead-letter queue to the exchange. -/
def deadLetterRoutingKey (t : Topology) : String := t.deadLetterQueue

/-- The arguments of the work queue: where its rejected messages go. -/
def workQueueArguments (t : Topology) : List (String × String) :=
  [("x-dead-letter-exchange", t.deadLetterExchange),
   ("x-dead-letter-routing-key", t.deadLetterRoutingKey)]

def chars (t : Topology) : List Char :=
  Json.recordChars
    [("work_queue", Json.quoteChars t.workQueue),
     ("dead_letter_queue", Json.quoteChars t.deadLetterQueue),
     ("dead_letter_exchange", Json.quoteChars t.deadLetterExchange)]

structure Draft where
  workQueue : Option String := none
  deadLetterQueue : Option String := none
  deadLetterExchange : Option String := none

def ofDraft (d : Draft) : Except Json.Mismatch Topology := do
  let workQueue ← Json.required "work_queue" d.workQueue
  let deadLetterQueue ← Json.required "dead_letter_queue" d.deadLetterQueue
  let deadLetterExchange ← Json.required "dead_letter_exchange" d.deadLetterExchange
  return ⟨workQueue, deadLetterQueue, deadLetterExchange⟩

def reader : Json.Reader Topology :=
  Json.record (.open "struct QueueTopology" 3)
    [.of "work_queue" Json.text Draft.workQueue (fun a d => { d with workQueue := some a }) false,
     .of "dead_letter_queue" Json.text Draft.deadLetterQueue
       (fun a d => { d with deadLetterQueue := some a }) false,
     .of "dead_letter_exchange" Json.text Draft.deadLetterExchange
       (fun a d => { d with deadLetterExchange := some a }) false]
    {} ofDraft

end Topology
end ReplyPipeline
