import ReplyPipeline.Json.Decode

/-!
# Messages

What a chat message is and who wrote it.
-/
namespace ReplyPipeline

/-- What a message is. -/
inductive MessageKind where
  | incoming
  | outgoing
  | activity
  | template
  deriving DecidableEq, Repr

namespace MessageKind

def names : List (String × MessageKind) :=
  [("incoming", .incoming), ("outgoing", .outgoing), ("activity", .activity),
   ("template", .template)]

def name : MessageKind → String
  | .incoming => "incoming"
  | .outgoing => "outgoing"
  | .activity => "activity"
  | .template => "template"

def ofName? (s : String) : Option MessageKind := names.lookup s

/-- The kind that the platform writes as a number. -/
def ofCode? (n : Int) : Option MessageKind :=
  if n = 0 then some .incoming
  else if n = 1 then some .outgoing
  else if n = 2 then some .activity
  else if n = 3 then some .template
  else none

def chars (k : MessageKind) : List Char := Json.quoteChars k.name

def reader : Json.Reader MessageKind := Json.choice names none

theorem ofName?_name (k : MessageKind) : ofName? k.name = some k := by cases k <;> decide

end MessageKind

/-- Who wrote a message. -/
inductive SenderKind where
  | user
  | contact
  | agent
  deriving DecidableEq, Repr

namespace SenderKind

def names : List (String × SenderKind) :=
  [("user", .user), ("contact", .contact), ("agent", .agent)]

def name : SenderKind → String
  | .user => "user"
  | .contact => "contact"
  | .agent => "agent"

/-- The kind that the platform's name for a sender type stands for. Whoever is neither a bot nor a
user of the platform is a contact. -/
def ofPlatformType (s : String) : SenderKind :=
  if s = "AgentBot" || s = "agent_bot" then .agent
  else if s = "User" then .user
  else .contact

def chars (k : SenderKind) : List Char := Json.quoteChars k.name

def reader : Json.Reader SenderKind := Json.choice names none

end SenderKind
end ReplyPipeline
