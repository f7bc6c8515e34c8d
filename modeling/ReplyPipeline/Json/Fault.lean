import ReplyPipeline.Json.Printer
import ReplyPipeline.Text.Quoted
import ReplyPipeline.Text.Utf8

/-!
# What can be wrong with JSON text

A `Cause` says what is wrong: the text is no JSON, or it is JSON of another shape than the reader
wants (`Mismatch`). A `Fault` is a cause with its place, kept as the number of octets that were
still unread. `Cause.message` is the wording, `Fault.messageIn` adds line and column.
-/
namespace ReplyPipeline.Json

/-- What stands in the text where something else was wanted. -/
inductive Found where
  | null
  | bool (b : Bool)
  | number (n : Number)
  | text (s : String)
  | sequence
  | map
  deriving DecidableEq, Repr

def Value.found : Value → Found
  | .null => .null
  | .bool b => .bool b
  | .number n => .number n
  | .string s => .text s
  | .array _ => .sequence
  | .object _ => .map

def Found.message : Found → String
  | .null => "null"
  | .bool b => "boolean `" ++ (if b then "true" else "false") ++ "`"
  | .number (.integer n) => "integer `" ++ Decimal.showInt n ++ "`"
  | .number (.real x) => "floating point `" ++ String.ofList (doubleChars x) ++ "`"
  | .text s => "string " ++ Text.Quoted.quote s
  | .sequence => "sequence"
  | .map => "map"

/-- JSON of another shape than wanted. `wanted` is the wording for the shape. -/
inductive Mismatch where
  | invalidType (found : Found) (wanted : String)
  | invalidValue (found : Found) (wanted : String)
  | invalidLength (length : Nat) (wanted : String)
  | missingField (name : String)
  | duplicateField (name : String)
  | unknownField (name : String) (known : List String)
  | unknownVariant (name : String) (known : List String)
  | noVariant (name : String)
  | custom (message : String)
  deriving DecidableEq, Repr

/-- A name between grave accents. -/
def graved (name : String) : String := "`" ++ name ++ "`"

/-- A choice of names: one, one or another, or one of several. -/
def choiceText : List String → String
  | [] => "there are no variants"
  | [a] => "expected " ++ graved a
  | [a, b] => "expected " ++ graved a ++ " or " ++ graved b
  | names => "expected one of " ++ ", ".intercalate (names.map graved)

def Mismatch.message : Mismatch → String
  | .invalidType found wanted => "invalid type: " ++ found.message ++ ", expected " ++ wanted
  | .invalidValue found wanted => "invalid value: " ++ found.message ++ ", expected " ++ wanted
  | .invalidLength n wanted => "invalid length " ++ Decimal.showNat n ++ ", expected " ++ wanted
  | .missingField name => "missing field " ++ graved name
  | .duplicateField name => "duplicate field " ++ graved name
  | .unknownField name known => "unknown field " ++ graved name ++ ", " ++ choiceText known
  | .unknownVariant name known => "unknown variant " ++ graved name ++ ", " ++ choiceText known
  | .noVariant name => "data did not match any variant of untagged enum " ++ name
  | .custom message => message

inductive Cause where
  | endInValue
  | endInList
  | endInObject
  | endInString
  | expectedValue
  | expectedIdent
  | expectedColon
  | expectedListSeparator
  | expectedObjectSeparator
  | keyNotString
  | trailingComma
  | trailingText
  | invalidNumber
  | numberOutOfRange
  | invalidEscape
  | loneSurrogate
  | unfinishedSurrogatePair
  | invalidCodePoint
  | controlCharacter
  | nestingTooDeep
  | mismatch (m : Mismatch)
  deriving DecidableEq, Repr

def Cause.message : Cause → String
  | .endInValue => "EOF while parsing a value"
  | .endInList => "EOF while parsing a list"
  | .endInObject => "EOF while parsing an object"
  | .endInString => "EOF while parsing a string"
  | .expectedValue => "expected value"
  | .expectedIdent => "expected ident"
  | .expectedColon => "expected `:`"
  | .expectedListSeparator => "expected `,` or `]`"
  | .expectedObjectSeparator => "expected `,` or `\x7d`"
  | .keyNotString => "key must be a string"
  | .trailingComma => "trailing comma"
  | .trailingText => "trailing characters"
  | .invalidNumber => "invalid number"
  | .numberOutOfRange => "number out of range"
  | .invalidEscape => "invalid escape"
  | .loneSurrogate => "lone leading surrogate in hex escape"
  | .unfinishedSurrogatePair => "unexpected end of hex escape"
  | .invalidCodePoint => "invalid unicode code point"
  | .controlCharacter => "control character (\\u0000-\\u001F) found while parsing a string"
  | .nestingTooDeep => "recursion limit exceeded"
  | .mismatch m => m.message

/-- A cause, and how many octets of the text lay behind its place. -/
structure Fault where
  cause : Cause
  remaining : Nat
  deriving DecidableEq, Repr

def Fault.message (f : Fault) : String := f.cause.message

/-- Line and column of the end of a stretch of text, both counted from one; a column is an octet,
and the octet that ends a line belongs to column zero of the next one. -/
def placeOf (before : Bytes) : Nat × Nat :=
  let newline : UInt8 := 10
  (1 + before.count newline, (before.reverse.takeWhile (· != newline)).length)

/-- The wording with line and column in the text it is about. -/
def Fault.messageIn (f : Fault) (text : Bytes) : String :=
  let (line, column) := placeOf (text.take (text.length - f.remaining))
  f.cause.message ++ " at line " ++ Decimal.showNat line ++ " column " ++ Decimal.showNat column

end ReplyPipeline.Json
