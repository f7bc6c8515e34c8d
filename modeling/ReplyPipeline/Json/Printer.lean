import ReplyPipeline.Json.Value
import ReplyPipeline.Decimal.Shortest

/-!
# Compact JSON text

There is no space between the parts. A text escapes the quote, the backslash and the control
characters below the space, and no other. A number of double precision is written with the fewest
digits, in positional notation when its leading digit stands for `10 ^ -5` to `10 ^ 15`, and a
number of single precision from `10 ^ -6` to `10 ^ 12`.
-/
namespace ReplyPipeline.Json

def doubleLayout : Decimal.Layout := ⟨-5, 15, true⟩

def singleLayout : Decimal.Layout := ⟨-6, 12, true⟩

def hexDigit (n : Nat) : Char := Nat.digitChar (n % 16)

/-- One character as it stands inside a text. -/
def escapeChar (c : Char) : List Char :=
  match c with
  | '"' => ['\\', '"']
  | '\\' => ['\\', '\\']
  | '\x08' => ['\\', 'b']
  | '\t' => ['\\', 't']
  | '\n' => ['\\', 'n']
  | '\x0c' => ['\\', 'f']
  | '\r' => ['\\', 'r']
  | c =>
    if c.toNat < 0x20 then
      ['\\', 'u', '0', '0', hexDigit (c.toNat / 16), hexDigit c.toNat]
    else [c]

/-- A text between its quotes. -/
def quoteChars (s : String) : List Char := '"' :: s.toList.flatMap escapeChar ++ ['"']

def doubleChars (x : Decimal.Binary) : List Char := doubleLayout.text .double x

def Number.chars : Number → List Char
  | .integer n => Decimal.intText n
  | .real x => doubleChars x

mutual

def Value.chars : Value → List Char
  | .null => ['n', 'u', 'l', 'l']
  | .bool true => ['t', 'r', 'u', 'e']
  | .bool false => ['f', 'a', 'l', 's', 'e']
  | .number n => n.chars
  | .string s => quoteChars s
  | .array [] => ['[', ']']
  | .array (v :: vs) => '[' :: v.chars ++ itemChars vs ++ [']']
  | .object [] => ['\x7b', '\x7d']
  | .object ((k, v) :: ms) =>
    '\x7b' :: quoteChars k ++ ':' :: v.chars ++ memberChars ms ++ ['\x7d']

def itemChars : List Value → List Char
  | [] => []
  | v :: vs => ',' :: v.chars ++ itemChars vs

def memberChars : List (String × Value) → List Char
  | [] => []
  | (k, v) :: ms => ',' :: quoteChars k ++ ':' :: v.chars ++ memberChars ms

end

def Value.render (v : Value) : String := String.ofList v.chars

/-- The parts with a comma between any two. -/
def commaSeparated : List (List Char) → List Char
  | [] => []
  | [p] => p
  | p :: q :: rest => p ++ ',' :: commaSeparated (q :: rest)

/-- The text of a record: its fields in the order given, each with its value's text. -/
def recordChars (fields : List (String × List Char)) : List Char :=
  '\x7b' :: commaSeparated (fields.map fun (k, v) => quoteChars k ++ ':' :: v) ++ ['\x7d']

def optionChars {α : Type} (write : α → List Char) : Option α → List Char
  | none => Value.null.chars
  | some a => write a

end ReplyPipeline.Json
