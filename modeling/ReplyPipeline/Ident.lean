import ReplyPipeline.Json.Decode
import ReplyPipeline.Text.Basic

/-!
# Identifiers

A correlation id is the id that the chat platform gave to a message: a text that is not blank and
has no blank ends. Duplicates are told by it. Tenants, conversations and inboxes have whole
numbers of 64 bits.
-/
namespace ReplyPipeline

/-- The kinds of identifiers that are whole numbers. -/
inductive NumericId where
  | tenant
  | conversation
  | inbox
  deriving DecidableEq, Repr

def NumericId.name : NumericId → String
  | .tenant => "TenantId"
  | .conversation => "ConversationId"
  | .inbox => "InboxId"

inductive IdError where
  | blank
  | notInteger (kind : NumericId) (cause : Decimal.IntegerError)
  | absent
  deriving DecidableEq, Repr

def IdError.text (detail : String) : String := "invalid identifier: " ++ detail

def IdError.message : IdError → String
  | .blank => text "CorrelationId: empty"
  | .notInteger kind cause => text (kind.name ++ ": " ++ cause.message)
  | .absent => text "absent"

/-- The id of the event that a task was made from. -/
structure CorrelationId where
  text : String
  trim_text : Text.trim text = text
  ne_empty : text ≠ ""
  deriving DecidableEq, Repr

namespace CorrelationId

/-- The id that a text names once its blank ends are gone. -/
def ofText (s : String) : Except IdError CorrelationId :=
  if h : Text.trim s = "" then .error .blank else .ok ⟨Text.trim s, Text.trim_trim s, h⟩

def chars (id : CorrelationId) : List Char := Json.quoteChars id.text

def reader : Json.Reader CorrelationId :=
  Json.refine Json.text fun s => (ofText s).mapError fun e => .custom e.message

end CorrelationId

/-- A whole number that a text spells between blanks. -/
def parseI64 (s : String) : Except Decimal.IntegerError Int64 :=
  (Decimal.readInteger .i64 (Text.trim s)).map Int64.ofInt

/-- The number that a text spells, as an identifier. -/
def NumericId.ofText (kind : NumericId) (s : String) : Except IdError Int64 :=
  (parseI64 s).mapError (.notInteger kind)

def i64Chars (n : Int64) : List Char := Decimal.intText n.toInt

def i64Reader : Json.Reader Int64 := fun n bs =>
  (Json.i64 n bs).map fun (i, rest) => (Int64.ofInt i, rest)

end ReplyPipeline
