import ReplyPipeline.Ident

/-!
# Agent configuration

An event carries the settings of the agent bot that is to answer it. The pipeline itself reads of
them only the response mode, which decides what becomes of a reply.
-/
namespace ReplyPipeline

open Json (Value)

/-- What becomes of a reply. -/
inductive ResponseMode where
  /-- It is posted to the conversation. -/
  | autoRespond
  /-- It is posted as a private note. -/
  | assistAgent
  /-- It is not posted. -/
  | manualTrigger
  /-- It is not posted, for want of a known mode. -/
  | unknown
  deriving DecidableEq, Repr

namespace ResponseMode

def names : List (String × ResponseMode) :=
  [("auto_respond", .autoRespond), ("assist_agent", .assistAgent),
   ("manual_trigger", .manualTrigger)]

def name : ResponseMode → String
  | .autoRespond => "auto_respond"
  | .assistAgent => "assist_agent"
  | .manualTrigger => "manual_trigger"
  | .unknown => "unknown"

def ofName (s : String) : ResponseMode := (names.lookup s).getD .unknown

/-- Whether a reply is posted, and then whether as a private note. -/
def delivery? : ResponseMode → Option Bool
  | .autoRespond => some false
  | .assistAgent => some true
  | .manualTrigger => none
  | .unknown => none

def chars (m : ResponseMode) : List Char := Json.quoteChars m.name

def reader : Json.Reader ResponseMode := Json.choice names (some .unknown)

end ResponseMode

/-- The settings of an agent bot. -/
structure AgentConfig where
  agentId : Option Int64 := none
  agentName : String := ""
  contextPrompt : Option String := none
  agentType : Option String := none
  responseMode : ResponseMode := .autoRespond
  botConfig : Option Value := none
  outgoingUrl : Option String := none
  deriving Repr

namespace AgentConfig

/-- The settings that an event carries. A member that is missing or of another type than expected
takes its default. -/
def ofValue (v : Value) : AgentConfig where
  agentId := (v.get? "agent_id").bind fun w => w.i64?.map Int64.ofInt
  agentName := ((v.get? "agent_name").bind Value.text?).getD ""
  contextPrompt := (v.get? "context_prompt").bind Value.text?
  agentType := (v.get? "ai_agent_type").bind Value.text?
  responseMode := (((v.get? "response_mode").bind Value.text?).map ResponseMode.ofName).getD
    .autoRespond
  botConfig := (v.get? "bot_config").filter Value.isObject
  outgoingUrl := (v.get? "outgoing_url").bind Value.text?

def chars (c : AgentConfig) : List Char :=
  Json.recordChars
    [("agent_id", Json.optionChars i64Chars c.agentId),
     ("agent_name", Json.quoteChars c.agentName),
     ("context_prompt", Json.optionChars Json.quoteChars c.contextPrompt),
     ("ai_agent_type", Json.optionChars Json.quoteChars c.agentType),
     ("response_mode", c.responseMode.chars),
     ("bot_config", Json.optionChars Value.chars c.botConfig),
     ("outgoing_url", Json.optionChars Json.quoteChars c.outgoingUrl)]

structure Draft where
  agentId : Option (Option Int64) := none
  agentName : Option String := none
  contextPrompt : Option (Option String) := none
  agentType : Option (Option String) := none
  responseMode : Option ResponseMode := none
  botConfig : Option (Option Value) := none
  outgoingUrl : Option (Option String) := none

/-- The settings that were read; what is missing takes its default. -/
def ofDraft (d : Draft) : AgentConfig where
  agentId := d.agentId.getD none
  agentName := d.agentName.getD ""
  contextPrompt := d.contextPrompt.getD none
  agentType := d.agentType.getD none
  responseMode := d.responseMode.getD .autoRespond
  botConfig := d.botConfig.getD none
  outgoingUrl := d.outgoingUrl.getD none

def fields : List (Json.Field Draft) :=
  [.of "agent_id" (Json.optional i64Reader) Draft.agentId
     (fun a d => { d with agentId := some a }) true,
   .of "agent_name" Json.text Draft.agentName (fun a d => { d with agentName := some a }) true,
   .of "context_prompt" (Json.optional Json.text) Draft.contextPrompt
     (fun a d => { d with contextPrompt := some a }) true,
   .of "ai_agent_type" (Json.optional Json.text) Draft.agentType
     (fun a d => { d with agentType := some a }) true,
   .of "response_mode" ResponseMode.reader Draft.responseMode
     (fun a d => { d with responseMode := some a }) true,
   .of "bot_config" (Json.optional Json.readValue) Draft.botConfig
     (fun a d => { d with botConfig := some a }) true,
   .of "outgoing_url" (Json.optional Json.text) Draft.outgoingUrl
     (fun a d => { d with outgoingUrl := some a }) true]

def reader : Json.Reader AgentConfig :=
  Json.record (.open "struct AgentConfig" 7) fields {} fun d => .ok (ofDraft d)

/-- Equal settings, numbers being compared by value. -/
def same (c d : AgentConfig) : Bool :=
  let botConfig := match c.botConfig, d.botConfig with
    | some v, some w => v.same w
    | none, none => true
    | _, _ => false
  c.agentId == d.agentId && c.agentName == d.agentName && c.contextPrompt == d.contextPrompt &&
    c.agentType == d.agentType && c.responseMode == d.responseMode && botConfig &&
    c.outgoingUrl == d.outgoingUrl

end AgentConfig
end ReplyPipeline
