import ReplyPipeline.Ident
import ReplyPipeline.Message

/-!
# Inbound events

An event is what the chat platform posts for a message. The fields that decide whether it becomes
a task (`event`, `id`, `content`, `private`, `message_type`) are strict: one of the wrong JSON type
makes the body malformed. The fields that describe it (sender, account, conversation, inbox) are
lenient: a wrong type reads as absent, and an id may be a number or a text that spells one.
-/
namespace ReplyPipeline

open Json (Value)

/-- The id of a message, as a number or as a text. -/
inductive MessageId where
  | number (n : Int64)
  | text (s : String)
  deriving DecidableEq, Repr

/-- The kind of a message, as a number or as a name. -/
inductive MessageType where
  | code (n : Int64)
  | name (s : String)
  deriving DecidableEq, Repr

/-- The kind meant. What is not known counts as incoming. -/
def MessageType.kind : MessageType → MessageKind
  | .code n => (MessageKind.ofCode? n.toInt).getD .incoming
  | .name s => (MessageKind.ofName? s).getD .incoming

/-- The correlation id of a message id, unless it is blank. -/
def MessageId.correlationId? : MessageId → Option CorrelationId
  | .number n => (CorrelationId.ofText (Decimal.showInt n.toInt)).toOption
  | .text s => (CorrelationId.ofText s).toOption

/-- Who wrote the message, as far as the event tells. -/
structure Author where
  id : Option Int64 := none
  name : Option String := none
  email : Option String := none
  type : Option String := none
  deriving DecidableEq, Repr

/-- The kind of sender; one without a type is a contact. -/
def Author.kind (a : Author) : SenderKind :=
  match a.type with
  | some t => .ofPlatformType t
  | none => .contact

structure Reference where
  id : Option Int64 := none
  deriving DecidableEq, Repr

/-- An inbound event, with the payload that it was decoded from. -/
structure Event where
  type : Option String
  id : Option MessageId
  isPrivate : Option Bool
  content : Option String
  messageType : Option MessageType
  sender : Option Author
  agentBot : Option Value
  account : Option Reference
  conversation : Option Reference
  inbox : Option Reference
  payload : Value
  deriving Repr

inductive EventError where
  /-- The body is no JSON text. -/
  | notJson (body : Bytes) (fault : Json.Fault)
  /-- The body is JSON but no object. -/
  | notObject
  /-- A deciding field is of the wrong type. -/
  | wrongField (mismatch : Json.Mismatch)
  /-- An identifier cannot be used. -/
  | invalidId (cause : IdError)
  deriving DecidableEq, Repr

def EventError.malformedText (detail : String) : String := "malformed event: " ++ detail

def EventError.message : EventError → String
  | .notJson body fault => malformedText (fault.messageIn body)
  | .notObject => malformedText "event body must be a JSON object"
  | .wrongField m => malformedText m.message
  | .invalidId cause => cause.message

namespace Event

/-- A lenient id: a whole number of 64 bits, or a text that spells one between blanks. -/
def lenientId : Value → Option Int64
  | .string s => (parseI64 s).toOption
  | v => v.i64?.map Int64.ofInt

/-- The fields of a record by name, or by place in a list that is no longer than the names. -/
def lenientFields (names : List String) : Value → Option (String → Option Value)
  | .object members => some fun name => members.lookup name
  | .array items =>
    if items.length ≤ names.length then some fun name => (names.zip items).lookup name else none
  | _ => none

def lenientAuthor (v : Value) : Option Author :=
  (lenientFields ["id", "name", "email", "type"] v).map fun field =>
    { id := (field "id").bind lenientId
      name := (field "name").bind Value.text?
      email := (field "email").bind Value.text?
      type := (field "type").bind Value.text? }

def lenientReference (v : Value) : Option Reference :=
  (lenientFields ["id"] v).map fun field => { id := (field "id").bind lenientId }

def strictText : Value → Except Json.Mismatch String
  | .string s => .ok s
  | v => .error (.invalidType v.found "a string")

def strictBool : Value → Except Json.Mismatch Bool
  | .bool b => .ok b
  | v => .error (.invalidType v.found "a boolean")

def strictId (v : Value) : Except Json.Mismatch MessageId :=
  match v, v.i64? with
  | .string s, _ => .ok (.text s)
  | _, some n => .ok (.number (Int64.ofInt n))
  | _, none => .error (.noVariant "RawId")

def strictType (v : Value) : Except Json.Mismatch MessageType :=
  match v, v.i64? with
  | .string s, _ => .ok (.name s)
  | _, some n => .ok (.code (Int64.ofInt n))
  | _, none => .error (.noVariant "RawMessageType")

/-- A strict field that may be missing or null. -/
def strictField {α : Type} (members : List (String × Value)) (name : String)
    (decode : Value → Except Json.Mismatch α) : Except Json.Mismatch (Option α) :=
  match members.lookup name with
  | none => .ok none
  | some .null => .ok none
  | some v => (decode v).map some

/-- The event of an object's members. Of two wrong fields the one with the lesser key is
reported. -/
def ofMembers (members : List (String × Value)) : Except Json.Mismatch Event := do
  let content ← strictField members "content" strictText
  let type ← strictField members "event" strictText
  let id ← strictField members "id" strictId
  let messageType ← strictField members "message_type" strictType
  let isPrivate ← strictField members "private" strictBool
  let reference (name : String) := (members.lookup name).bind lenientReference
  return {
    type, id, isPrivate, content, messageType
    sender := (members.lookup "sender").bind lenientAuthor
    agentBot := (members.lookup "agent_bot").bind fun
      | .null => none
      | v => some v
    account := reference "account"
    conversation := reference "conversation"
    inbox := reference "inbox"
    payload := .object members }

def ofValue : Value → Except EventError Event
  | .object members => (ofMembers members).mapError .wrongField
  | _ => .error .notObject

def ofBytes (body : Bytes) : Except EventError Event :=
  match Value.parse body with
  | .error f => .error (.notJson body f)
  | .ok v => ofValue v

/-- The correlation id, if the event has a message id that is not blank. -/
def correlationId? (e : Event) : Option CorrelationId := e.id.bind MessageId.correlationId?

def isPrivateNote (e : Event) : Bool := e.isPrivate.getD false

/-- The content, empty if there is none. -/
def contentText (e : Event) : String := e.content.getD ""

def messageKind (e : Event) : MessageKind := (e.messageType.map MessageType.kind).getD .incoming

def senderType? (e : Event) : Option String := e.sender.bind Author.type

/-- The agent bot, if the value there carries anything. -/
def activeAgentBot? (e : Event) : Option Value := e.agentBot.filter fun v => !v.isVoid

/-- The id of a reference, zero if it has none. -/
def referenceId (r : Option Reference) : Int64 := (r.bind Reference.id).getD 0

/-- The tenant, zero if the event names none. -/
def tenant (e : Event) : Int64 := referenceId e.account

def conversationId (e : Event) : Int64 := referenceId e.conversation

def inboxId (e : Event) : Int64 := referenceId e.inbox

end Event
end ReplyPipeline
