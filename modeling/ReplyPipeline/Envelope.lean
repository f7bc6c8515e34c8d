import ReplyPipeline.Agent
import ReplyPipeline.Event
import ReplyPipeline.Time.Instant

/-!
# Task envelopes

An envelope is the unit of work that crosses the broker: an accepted event with what the worker
needs to answer it. Its correlation id never changes; of all its fields only the count of failed
attempts does, by one for each failure. It travels as a JSON record.
-/
namespace ReplyPipeline

open Json (Value)

/-- Who sent the message of a task. -/
structure Sender where
  id : Option Int64 := none
  kind : SenderKind := .contact
  name : Option String := none
  deriving DecidableEq, Repr

namespace Sender

def chars (s : Sender) : List Char :=
  Json.recordChars
    [("id", Json.optionChars i64Chars s.id),
     ("kind", s.kind.chars),
     ("name", Json.optionChars Json.quoteChars s.name)]

structure Draft where
  id : Option (Option Int64) := none
  kind : Option SenderKind := none
  name : Option (Option String) := none

def fields : List (Json.Field Draft) :=
  [.of "id" (Json.optional i64Reader) Draft.id (fun a d => { d with id := some a }) true,
   .of "kind" SenderKind.reader Draft.kind (fun a d => { d with kind := some a }) true,
   .of "name" (Json.optional Json.text) Draft.name (fun a d => { d with name := some a }) true]

/-- Reads the JSON text of a sender; what is missing takes its default. -/
def reader : Json.Reader Sender :=
  Json.record (.open "struct Sender" 3) fields {} fun d =>
    .ok ⟨d.id.getD none, d.kind.getD .contact, d.name.getD none⟩

end Sender

/-- The unit of work that crosses the broker. -/
structure Envelope where
  correlationId : CorrelationId
  tenant : Int64
  conversation : Int64
  inbox : Int64
  content : String
  kind : MessageKind
  sender : Option Sender
  agent : Option AgentConfig
  createdAt : Instant
  /-- How many attempts have failed. -/
  attempts : UInt32
  /-- The payload of the event, passed through. -/
  raw : Value
  deriving Repr

/-- Why octets are no envelope. -/
inductive EnvelopeError where
  | undecodable (fault : Json.Fault)
  deriving DecidableEq, Repr

def EnvelopeError.undecodableText (detail : String) : String :=
  "envelope deserialization failed: " ++ detail

def EnvelopeError.unwritableText (detail : String) : String :=
  "envelope serialization failed: " ++ detail

def EnvelopeError.message : EnvelopeError → String
  | .undecodable fault => undecodableText fault.message

namespace Envelope

/-- A fresh envelope without sender and settings. -/
def plain (id : CorrelationId) (tenant conversation : Int64) (content : String) (now : Instant) :
    Envelope :=
  ⟨id, tenant, conversation, 0, content, .incoming, none, none, now, 0, .null⟩

/-- A fresh envelope of an event. -/
def ofEvent (e : Event) (id : CorrelationId) (now : Instant) : Envelope where
  correlationId := id
  tenant := e.tenant
  conversation := e.conversationId
  inbox := e.inboxId
  content := e.contentText
  kind := e.messageKind
  sender := e.sender.map fun a => ⟨a.id, a.kind, a.name⟩
  agent := e.activeAgentBot?.map AgentConfig.ofValue
  createdAt := now
  attempts := 0
  raw := e.payload

/-- The response mode; without settings it is the default one. -/
def responseMode (e : Envelope) : ResponseMode :=
  (e.agent.map AgentConfig.responseMode).getD .autoRespond

/-- One more than a count, or the same if it is the greatest. -/
def saturatingSucc (n : UInt32) : UInt32 := if n.toNat + 1 < 2 ^ 32 then n + 1 else n

/-- The envelope after one more failed attempt. -/
def recordFailure (e : Envelope) : Envelope := { e with attempts := saturatingSucc e.attempts }

def chars (e : Envelope) : List Char :=
  Json.recordChars
    [("correlation_id", e.correlationId.chars),
     ("tenant_id", i64Chars e.tenant),
     ("conversation_id", i64Chars e.conversation),
     ("inbox_id", i64Chars e.inbox),
     ("content", Json.quoteChars e.content),
     ("message_kind", e.kind.chars),
     ("sender", Json.optionChars Sender.chars e.sender),
     ("agent_config", Json.optionChars AgentConfig.chars e.agent),
     ("created_at", Json.quoteChars e.createdAt.text),
     ("attempt_count", Decimal.natText e.attempts.toNat),
     ("raw", e.raw.chars)]

def toBytes (e : Envelope) : Bytes := Text.Utf8.encode e.chars

def instantReader : Json.Reader Instant :=
  Json.refine (Json.textAs "an RFC 3339 formatted date and time string") fun s =>
    (Instant.ofText s).mapError fun e => .custom e.message

structure Draft where
  correlationId : Option CorrelationId := none
  tenant : Option Int64 := none
  conversation : Option Int64 := none
  inbox : Option Int64 := none
  content : Option String := none
  kind : Option MessageKind := none
  sender : Option (Option Sender) := none
  agent : Option (Option AgentConfig) := none
  createdAt : Option Instant := none
  attempts : Option Nat := none
  raw : Option Value := none

def ofDraft (d : Draft) : Except Json.Mismatch Envelope := do
  let correlationId ← Json.required "correlation_id" d.correlationId
  let tenant ← Json.required "tenant_id" d.tenant
  let conversation ← Json.required "conversation_id" d.conversation
  let inbox ← Json.required "inbox_id" d.inbox
  let content ← Json.required "content" d.content
  let kind ← Json.required "message_kind" d.kind
  let createdAt ← Json.required "created_at" d.createdAt
  return ⟨correlationId, tenant, conversation, inbox, content, kind, d.sender.getD none,
    d.agent.getD none, createdAt, UInt32.ofNat (d.attempts.getD 0), d.raw.getD .null⟩

/-- The fields; the last two may be missing at the end of a list. -/
def fields : List (Json.Field Draft) :=
  [.of "correlation_id" CorrelationId.reader Draft.correlationId
     (fun a d => { d with correlationId := some a }) false,
   .of "tenant_id" i64Reader Draft.tenant (fun a d => { d with tenant := some a }) false,
   .of "conversation_id" i64Reader Draft.conversation
     (fun a d => { d with conversation := some a }) false,
   .of "inbox_id" i64Reader Draft.inbox (fun a d => { d with inbox := some a }) false,
   .of "content" Json.text Draft.content (fun a d => { d with content := some a }) false,
   .of "message_kind" MessageKind.reader Draft.kind (fun a d => { d with kind := some a }) false,
   .of "sender" (Json.optional Sender.reader) Draft.sender
     (fun a d => { d with sender := some a }) true,
   .of "agent_config" (Json.optional AgentConfig.reader) Draft.agent
     (fun a d => { d with agent := some a }) true,
   .of "created_at" instantReader Draft.createdAt
     (fun a d => { d with createdAt := some a }) false,
   .of "attempt_count" Json.u32 Draft.attempts (fun a d => { d with attempts := some a }) true,
   .of "raw" Json.readValue Draft.raw (fun a d => { d with raw := some a }) true]

def reader : Json.Reader Envelope :=
  Json.record (.open "struct TaskEnvelope" 11) fields {} ofDraft

def ofBytes (body : Bytes) : Except EnvelopeError Envelope :=
  (reader.run body).mapError .undecodable

/-- Equal envelopes, numbers being compared by value. -/
def same (e f : Envelope) : Bool :=
  let agent := match e.agent, f.agent with
    | some c, some d => c.same d
    | none, none => true
    | _, _ => false
  e.correlationId == f.correlationId && e.tenant == f.tenant &&
    e.conversation == f.conversation && e.inbox == f.inbox && e.content == f.content &&
    e.kind == f.kind && e.sender == f.sender && agent && e.createdAt == f.createdAt &&
    e.attempts == f.attempts && e.raw.same f.raw

end Envelope
end ReplyPipeline
