import ReplyPipeline.Event

/-!
# The ingestion filter

The filter decides whether an event becomes a task. Its rules stand in a fixed order, and the
first one that an event breaks is the reason for its rejection.
-/
namespace ReplyPipeline

/-- Why an event does not become a task. -/
inductive Rejection where
  | eventNotAllowed (event : String)
  | privateNote
  | emptyContent
  | outgoingMessage
  | activityMessage
  | botSender (senderType : String)
  | noAgentBot
  deriving DecidableEq, Repr

namespace Rejection

/-- The reason as it is told to the platform. -/
def message : Rejection → String
  | .eventNotAllowed event => "event type '" ++ event ++ "' not processed"
  | .privateNote => "private message"
  | .emptyContent => "empty content"
  | .outgoingMessage => "outgoing message"
  | .activityMessage => "activity message"
  | .botSender senderType => "message from bot sender '" ++ senderType ++ "'"
  | .noAgentBot => "no agent bot configured"

def rule : Rejection → String
  | .eventNotAllowed _ => "event_not_allowed"
  | .privateNote => "private_note"
  | .emptyContent => "empty_content"
  | .outgoingMessage => "outgoing_message"
  | .activityMessage => "activity_message"
  | .botSender _ => "bot_sender"
  | .noAgentBot => "no_agent_bot"

/-- What a rejection of a rule holds besides the rule: nothing, or a text under a key. `title` is
its name in complaints. -/
inductive Payload where
  | nothing (r : Rejection)
  | text (key title : String) (make : String → Rejection)

def rules : List (String × Payload) :=
  [("event_not_allowed",
      .text "event" "struct variant Rejection::EventNotAllowed" .eventNotAllowed),
   ("private_note", .nothing .privateNote),
   ("empty_content", .nothing .emptyContent),
   ("outgoing_message", .nothing .outgoingMessage),
   ("activity_message", .nothing .activityMessage),
   ("bot_sender", .text "sender_type" "struct variant Rejection::BotSender" .botSender),
   ("no_agent_bot", .nothing .noAgentBot)]

/-- The JSON text: the rule, and the text that goes with it. -/
def chars (r : Rejection) : List Char :=
  let payload :=
    match r with
    | .eventNotAllowed event => [("event", Json.quoteChars event)]
    | .botSender senderType => [("sender_type", Json.quoteChars senderType)]
    | _ => []
  Json.recordChars (("rule", Json.quoteChars r.rule) :: payload)

/-- The members behind the rule, where one text is wanted under a key. -/
def ofMembers (key : String) (make : String → Rejection) (members : List (String × Json.Value)) :
    Except Json.Mismatch Rejection :=
  let rec go : Option String → List (String × Json.Value) → Except Json.Mismatch Rejection
    | some s, [] => .ok (make s)
    | none, [] => .error (.missingField key)
    | seen, (k, v) :: rest =>
      if k = key then
        if seen.isSome then .error (.duplicateField key)
        else
          match Event.strictText v with
          | .ok s => go (some s) rest
          | .error m => .error m
      else go seen rest
  go none members

/-- The rejection of a rule with the members that stand beside it. -/
def Payload.withMembers (members : List (String × Json.Value)) :
    Payload → Except Json.Mismatch Rejection
  | .nothing r => .ok r
  | .text key _ make => ofMembers key make members

/-- The rejection of a rule with the items that stand behind it. -/
def Payload.withItems (items : List Json.Value) : Payload → Except Json.Mismatch Rejection
  | .nothing r =>
    if items.isEmpty then .ok r
    else .error (.invalidLength items.length "0 elements in sequence")
  | .text _ title make =>
    match items with
    | [] => .error (.invalidLength 0 (title ++ " with 1 element"))
    | v :: rest => do
      let s ← Event.strictText v
      if rest.isEmpty then .ok (make s)
      else .error (.invalidLength (rest.length + 1) "1 element in sequence")

/-- The members of an object of which one names the rule, as they stand in the text. -/
def readTagged (nesting : Nat) : Nat → Bool → Option Payload → List (String × Json.Value) →
    Bytes → Except Json.Fault ((Payload × List (String × Json.Value)) × Bytes)
  | 0, _, _, _, bs => Json.faultNext bs .endInObject
  | fuel + 1, first, payload, reversed, bs => do
    match ← Json.nextKey first bs with
    | .close bs =>
      match payload with
      | some p => .ok ((p, reversed.reverse), bs.drop 1)
      | none => Json.mismatch bs (.missingField "rule")
    | .entry bs =>
      let (key, rest) ← Json.readText bs
      if key = "rule" then
        if payload.isSome then Json.mismatch rest (.duplicateField "rule")
        else
          let (p, rest) ← Json.nameAmong rules none nesting (← Json.readColon rest)
          readTagged nesting fuel false (some p) reversed rest
      else
        let (v, rest) ← Json.readValue nesting (← Json.readColon rest)
        readTagged nesting fuel false payload ((key, v) :: reversed) rest

/-- The items of a list of which the first one names the rule. -/
def readTaggedItems (nesting : Nat) (bs : Bytes) :
    Except Json.Fault ((Payload × List Json.Value) × Bytes) := do
  match ← Json.nextItem true bs with
  | .close bs => Json.mismatch bs (.missingField "rule")
  | .entry bs =>
    let (p, rest) ← Json.nameAmong rules none nesting bs
    let (items, rest) ←
      Json.readItemsFrom (Json.readValue nesting) (rest.length + 1) false [] rest
    .ok ((p, items), rest)

/-- Reads the JSON text of a rejection: an object with the rule in any place, or a list with the
rule in front. -/
def reader : Json.Reader Rejection := fun n bs =>
  match Json.skipSpaces bs with
  | [] => Json.faultNext [] .endInValue
  | b :: rest =>
    if b == Json.octet '\x7b' then
      match n with
      | 0 => Json.faultNext (b :: rest) .nestingTooDeep
      | n + 1 => do
        let ((p, members), rest) ← readTagged n (rest.length + 1) true none [] rest
        match p.withMembers members with
        | .ok r => .ok (r, rest)
        | .error m => Json.mismatch rest m
    else if b == Json.octet '[' then
      match n with
      | 0 => Json.faultNext (b :: rest) .nestingTooDeep
      | n + 1 => do
        let ((p, items), rest) ← readTaggedItems n rest
        match p.withItems items with
        | .ok r => .ok (r, rest)
        | .error m => Json.mismatch rest m
    else Json.wrongType "internally tagged enum Rejection" b rest

end Rejection

/-- The filter: the event types that may become tasks, and the sender types of bots. -/
structure Filter where
  allowedEvents : List String := ["message_created"]
  botSenderTypes : List String := ["AgentBot", "agent_bot"]
  deriving DecidableEq, Repr

/-- The first rule that an event breaks. -/
def Filter.rejection? (f : Filter) (e : Event) : Option Rejection :=
  let type := e.type.getD ""
  let fromBot : Option Rejection :=
    (e.senderType?.filter (f.botSenderTypes.contains ·)).map .botSender
  if !f.allowedEvents.contains type then some (.eventNotAllowed type)
  else if e.isPrivateNote then some .privateNote
  else if Text.allBlank e.contentText then some .emptyContent
  else if e.messageKind = .outgoing then some .outgoingMessage
  else if e.messageKind = .activity then some .activityMessage
  else if fromBot.isSome then fromBot
  else if e.activeAgentBot?.isNone then some .noAgentBot
  else none

def Filter.accepts (f : Filter) (e : Event) : Bool := (f.rejection? e).isNone

end ReplyPipeline
