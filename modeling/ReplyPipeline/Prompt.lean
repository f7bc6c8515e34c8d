import ReplyPipeline.Agent
import ReplyPipeline.Decimal.Literal

/-!
# Prompts

What a chat-completion model is told before the message of a task: a prompt of the agent's own, or
the built-in one for the agent's type, or the general one. The bot's configuration may set how
freely the model answers and how long the answer may be.
-/
namespace ReplyPipeline

/-- A number of single precision, or what is no finite number. -/
inductive Temperature where
  | finite (x : Decimal.Binary)
  | nonFinite
  deriving DecidableEq, Repr

namespace Temperature

/-- The number of single precision nearest to one of double precision. -/
def ofDouble (x : Decimal.Binary) : Temperature :=
  match x.toFormat .single with
  | some y => .finite y
  | none => .nonFinite

def ofLiteral : Decimal.Literal → Temperature
  | .finite x => .finite x
  | _ => .nonFinite

/-- The JSON text; what is not finite is null. -/
def chars : Temperature → List Char
  | .finite x => Json.singleLayout.text .single x
  | .nonFinite => Json.Value.null.chars

end Temperature

namespace Prompt

def assistant : String :=
  "You are an intelligent virtual assistant.\nHelp the user as well as you can."

def support : String :=
  "You are a professional and helpful customer support assistant.\n" ++
  "Answer clearly, politely and objectively.\n" ++
  "Always try to resolve the customer's question or point them to the right place."

def scheduling : String :=
  "You are a professional scheduling assistant.\n" ++
  "Help the customer book, reschedule or cancel appointments.\n" ++
  "Always confirm date, time and details before finishing."

def sales : String :=
  "You are a virtual SDR (Sales Development Representative).\n" ++
  "Your goal is to qualify leads and book meetings with the sales team.\n" ++
  "Be consultative and ask relevant questions about the customer's needs."

def builtin? (agentType : String) : Option String :=
  [("support", support), ("scheduling", scheduling), ("sdr", sales),
   ("assistant", assistant)].lookup agentType

structure Profile where
  systemPrompt : String
  temperature : Option Temperature
  maxTokens : Option UInt32
  deriving DecidableEq, Repr

/-- The system prompt for an agent. A prompt of its own that is blank does not count. -/
def systemFor (c : AgentConfig) : String :=
  match (c.contextPrompt.map Text.trim).filter (· ≠ "") with
  | some own => own
  | none => (c.agentType.bind builtin?).getD assistant

/-- The profile for the agent of a task. -/
def Profile.resolve : Option AgentConfig → Profile
  | none => ⟨assistant, none, none⟩
  | some c =>
    let setting (name : String) := c.botConfig.bind (·.get? name)
    { systemPrompt := systemFor c
      temperature := ((setting "temperature").bind Json.Value.double?).map Temperature.ofDouble
      maxTokens := ((setting "max_tokens").bind Json.Value.u64?).bind fun n =>
        if n < 2 ^ 32 then some (UInt32.ofNat n) else none }

end Prompt
end ReplyPipeline
