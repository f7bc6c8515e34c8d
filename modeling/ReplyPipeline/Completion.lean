import ReplyPipeline.Envelope
import ReplyPipeline.Http.Message
import ReplyPipeline.Pipeline.Request
import ReplyPipeline.Prompt

/-!
# Completions and replies

The processing function of the workers asks a language model: one completion for one task. The
model is told the system prompt of the task's agent and the content of the task, and its first
choice is the reply. Replies are posted to the conversation on the chat platform, as messages for
everybody or as private notes.
-/
namespace ReplyPipeline

/-! ## Chat completions -/

/-- A base URL without the slashes at its end. -/
def trimSlashes (s : String) : String :=
  String.ofList ((s.toList.reverse.dropWhile (· == '/')).reverse)

/-- A language model, and how it is asked. -/
structure CompletionModel where
  baseUrl : String
  key : Option String
  model : String
  /-- The temperature where the agent's settings have none. -/
  temperature : Temperature
  deriving DecidableEq, Repr

/-- Why a completion is no reply. -/
inductive CompletionError where
  /-- No response came, or none that could be read. -/
  | noResponse
  | refused (status : Nat) (body : String)
  /-- The response is no completion. -/
  | unreadable (fault : Json.Fault)
  | emptyReply
  deriving DecidableEq, Repr

def CompletionError.message? : CompletionError → Option String
  | .noResponse => none
  | .refused status body =>
    let detail := "status " ++ Http.Status.text status ++ ": " ++ body
    some (ProcessingError.serviceFailed detail).message
  | .unreadable _ => none
  | .emptyReply => some ProcessingError.emptyReply.message

/-- A completion: the content of each choice. -/
structure Completion where
  choices : List (Option String)
  deriving DecidableEq, Repr

namespace Completion

def messageReader : Json.Reader (Option String) :=
  Json.record (.open "struct ChoiceMessage" 1)
    [.of "content" (Json.optional Json.text) id (fun a _ => some a) true]
    (none : Option (Option String)) fun d => .ok (d.getD none)

def choiceReader : Json.Reader (Option String) :=
  Json.record (.open "struct Choice" 1)
    [.of "message" messageReader id (fun a _ => some a) false]
    (none : Option (Option String)) (Json.required "message")

/-- Reads a completion; it may be without choices. -/
def reader : Json.Reader Completion :=
  Json.record (.open "struct ChatResponse" 1)
    [.of "choices" (Json.list "a sequence" choiceReader) id (fun a _ => some a) true]
    (none : Option (List (Option String))) fun d => .ok ⟨d.getD []⟩

/-- The content of the first choice without its blank ends, unless nothing is left of it. -/
def firstReply (c : Completion) : Except CompletionError String :=
  match c.choices with
  | some content :: _ =>
    if Text.trim content = "" then .error .emptyReply else .ok (Text.trim content)
  | _ => .error .emptyReply

end Completion

namespace CompletionModel

def endpoint (m : CompletionModel) : String := trimSlashes m.baseUrl ++ "/chat/completions"

def messageChars (role content : String) : List Char :=
  Json.recordChars [("role", Json.quoteChars role), ("content", Json.quoteChars content)]

def requestChars (m : CompletionModel) (p : Prompt.Profile) (content : String) : List Char :=
  let messages :=
    Json.commaSeparated [messageChars "system" p.systemPrompt, messageChars "user" content]
  let limit := p.maxTokens.map fun n => ("max_tokens", Decimal.natText n.toNat)
  Json.recordChars
    ([("model", Json.quoteChars m.model), ("messages", '[' :: messages ++ [']']),
      ("temperature", (p.temperature.getD m.temperature).chars)] ++ limit.toList)

def posting (m : CompletionModel) (task : Envelope) : Http.Posting where
  url := m.endpoint
  headers := (m.key.map fun k => ("authorization", "Bearer " ++ k)).toList
  body := m.requestChars (.resolve task.agent) task.content

def replyOf (r : Http.Reply) : Except CompletionError String :=
  if Http.Status.isSuccess r.status then
    match Completion.reader.run r.body with
    | .ok c => c.firstReply
    | .error fault => .error (.unreadable fault)
  else .error (.refused r.status r.text)

def result (answer : Option Http.Reply) : Except CompletionError String :=
  match answer.bind Http.Reply.final? with
  | some r => replyOf r
  | none => .error .noResponse

end CompletionModel

/-! ## Posting replies -/

inductive PostingError where
  /-- The request could not be sent, or no response came. -/
  | noResponse
  | refused (status : Nat) (body : String)
  deriving DecidableEq, Repr

def PostingError.message? : PostingError → Option String
  | .noResponse => none
  | .refused status body => some (ReplyError.status status body).message

structure ChatPlatform where
  baseUrl : String
  token : Option String
  deriving DecidableEq, Repr

namespace ChatPlatform

def messagesUrl (p : ChatPlatform) (tenant conversation : Int64) : String :=
  trimSlashes p.baseUrl ++ "/api/v1/accounts/" ++ Decimal.showInt tenant.toInt ++
    "/conversations/" ++ Decimal.showInt conversation.toInt ++ "/messages"

def messageChars (text : String) (isPrivate : Bool) : List Char :=
  Json.recordChars
    [("content", Json.quoteChars text), ("message_type", Json.quoteChars "outgoing"),
     ("private", (Json.Value.bool isPrivate).chars)]

def posting (p : ChatPlatform) (tenant conversation : Int64) (text : String) (isPrivate : Bool) :
    Http.Posting where
  url := p.messagesUrl tenant conversation
  headers := (p.token.map fun t => ("api_access_token", t)).toList
  body := messageChars text isPrivate

def result (answer : Option Http.Reply) : Except PostingError Unit :=
  match answer.bind Http.Reply.final? with
  | some r =>
    if Http.Status.isSuccess r.status then .ok () else .error (.refused r.status r.text)
  | none => .error .noResponse

end ChatPlatform
end ReplyPipeline
