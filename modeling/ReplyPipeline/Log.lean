import ReplyPipeline.Json.Printer
import ReplyPipeline.Text.Basic
import ReplyPipeline.Text.Quoted

/-!
# Logging

What is logged, how it is written, and the directives that say which of it is.
-/
namespace ReplyPipeline.Log

/-!
## Log formats

Log lines are JSON records or plain text.
-/

inductive Format where
  | json
  | text
  deriving DecidableEq, Repr

/-- The format that a setting names. What is not known means JSON. -/
def Format.ofSetting (value : Option String) : Format :=
  let word := value.map fun v => String.ofList ((Text.trimChars v.toList).map Char.toLower)
  if word = some "text" || word = some "pretty" then .text else .json

/-!
## Log records

A record is a message with named values beside it. Records are written as JSON or as plain text.
-/

/-- A value beside a message. -/
inductive FieldValue where
  /-- A text that stands in quotes in plain text. -/
  | quoted (s : String)
  /-- A text that stands as it is. -/
  | shown (s : String)
  | count (n : Nat)
  deriving DecidableEq, Repr

def FieldValue.text : FieldValue → String
  | .quoted s => Text.Quoted.quote s
  | .shown s => s
  | .count n => Decimal.showNat n

/-- In JSON. -/
def FieldValue.value : FieldValue → Json.Value
  | .quoted s => .string s
  | .shown s => .string s
  | .count n => .number (.integer n)

/-- What is logged at once. -/
structure Record where
  /-- The part of the program that it comes from. -/
  target : String
  message : String
  fields : List (String × FieldValue) := []
  deriving DecidableEq, Repr

namespace Record

/-- The names of everything that a record has. -/
def names (r : Record) : List String := "message" :: r.fields.map (·.1)

/-- In JSON: the message is one value among the others. -/
def value (r : Record) : Json.Value :=
  .ofMembers (("message", .string r.message) :: r.fields.map fun (name, v) => (name, v.value))

/-- In plain text: the message and then the values. -/
def text (r : Record) : String :=
  r.message ++ String.join (r.fields.map fun (name, v) => " " ++ name ++ "=" ++ v.text)

end Record

/-!
## Directives

Directives say which records are written. Each gives a level to the records of a target, which is
the beginning of a name, or to all; it may ask for a field, or for a span around the record. Of the
directives that fit a record the most specific one counts: the one with the longest target, then
one that asks for a field, and of equals the last.

Records here stand in no span, so a directive that asks for one never fits.
-/

inductive Level where
  | off
  | error
  | warn
  | info
  | debug
  | trace
  deriving DecidableEq, Repr

namespace Level

def all : List Level := [.off, .error, .warn, .info, .debug, .trace]

def rank : Level → Nat
  | .off => 0
  | .error => 1
  | .warn => 2
  | .info => 3
  | .debug => 4
  | .trace => 5

def name : Level → String
  | .off => "off"
  | .error => "error"
  | .warn => "warn"
  | .info => "info"
  | .debug => "debug"
  | .trace => "trace"

/-- The level with a number or a name. Upper and lower case are the same. -/
def ofText? (cs : List Char) : Option Level :=
  match (Decimal.readInteger .u64 (String.ofList cs)).toOption with
  | some n => if n < 0 then none else all[n.toNat]?
  | none =>
    let name := String.ofList (cs.map Char.toLower)
    all.find? fun level => level.name = name

end Level

structure Directive where
  level : Level := .trace
  target : Option String := none
  /-- It asks for a span, or for the value of a field. -/
  asksForSpan : Bool := false
  field : Option String := none
  deriving DecidableEq, Repr

namespace Directive

/-- Where the reading of a directive stands; numbers are the places where parts begin. -/
inductive State where
  | start
  | word (first : Nat)
  | span (first : Nat)
  | field (first : Nat)
  | afterField
  | afterSpan
  | level (first : Nat)
  deriving DecidableEq, Repr

def slice (cs : List Char) (first last : Nat) : List Char := (cs.drop first).take (last - first)

/-- May begin a directive. Every visible character beyond ASCII may. -/
def isStart (c : Char) : Bool :=
  c.isAlphanum || c == '-' || c == ':' || c == '_' || 0x80 ≤ c.toNat

/-- The directive with a field that was read. A field with a value asks for a span. -/
def withField? (d : Directive) (cs : List Char) : Option Directive :=
  let name := cs.takeWhile (· != '=')
  if cs.isEmpty then none
  else some { d with
    field := some (String.ofList name)
    asksForSpan := d.asksForSpan || name.length < cs.length }

/-- What has been read behind the character at a place. -/
def next (whole : List Char) (place : Nat) (c : Char) (s : State) (d : Directive) :
    Option (State × Directive) :=
  match s with
  | .start =>
    if c = '[' then some (.span (place + 1), d)
    else if isStart c then some (.word place, d)
    else none
  | .word first =>
    let named := { d with target := some (String.ofList (slice whole first place)) }
    if c = '=' then some (.level (place + 1), named)
    else if c = '[' then some (.span (place + 1), named)
    else some (s, d)
  | .span first =>
    if c = ']' then some (.afterSpan, { d with asksForSpan := true })
    else if c = '\x7b' then some (.field (place + 1), { d with asksForSpan := first < place })
    else some (s, d)
  | .field first =>
    if c = '\x7d' then (d.withField? (slice whole first place)).map fun d => (.afterField, d)
    else some (s, d)
  | .afterField => if c = ']' then some (.afterSpan, d) else none
  | .afterSpan => if c = '=' then some (.level (place + 1), d) else none
  | .level _ => some (s, d)

/-- The directive at the end of its text. A word by itself is a level or else a target. -/
def finish (whole : List Char) (s : State) (d : Directive) : Option Directive :=
  match s with
  | .word first =>
    let word := whole.drop first
    match Level.ofText? word with
    | some level => some { d with level }
    | none => some { d with target := some (String.ofList word) }
  | .level first =>
    let word := whole.drop first
    if word.isEmpty then some d else (Level.ofText? word).map fun level => { d with level }
  | .afterSpan => some d
  | _ => none

def readFrom (whole : List Char) :
    Nat → List Char → State → Directive → Option Directive
  | _, [], s, d => finish whole s d
  | place, c :: rest, s, d => do
    let (s, d) ← next whole place c s d
    readFrom whole (place + 1) rest s d

/-- The directive that a text is. Blank ends are passed over, but the places are counted without
those in front. -/
def ofText? (cs : List Char) : Option Directive :=
  readFrom cs 0 (Text.trimChars cs) .start {}

def fits (d : Directive) (r : Record) : Bool :=
  !d.asksForSpan && d.target.all (fun t => t.toList.isPrefixOf r.target.toList) &&
    d.field.all r.names.contains

/-- How specific a directive is: the length of its target, then whether it asks for a field. -/
def weight (d : Directive) : Nat × Nat :=
  ((d.target.map fun t => t.length + 1).getD 0, if d.field.isSome then 1 else 0)

/-- The first directive counts for less than the second, or for as much. -/
def isCoveredBy (d e : Directive) : Bool :=
  let (m, j) := d.weight
  let (n, k) := e.weight
  m < n || (m == n && (j < k || (j == k && d.field.getD "" ≤ e.field.getD "")))

end Directive

/-- The directives that are in force when nothing else is said: records of level `info` and
above. -/
def standardDirectives : List Directive := [{ level := .info }]

/-- The directives that a setting gives, separated by commas. One that cannot be read makes all of
them void. -/
def directivesOf (setting : Option String) : List Directive :=
  match setting with
  | none => standardDirectives
  | some s =>
    let parts := (Text.splitOn ',' s.toList).filter fun cs => !cs.isEmpty
    (parts.mapM Directive.ofText?).getD standardDirectives

/-- The level of the directive that counts for a record. Where none fits nothing is written. -/
def levelFor (ds : List Directive) (r : Record) : Level :=
  let chosen := (ds.filter fun d => d.fits r).foldl (fun best d =>
    if best.all fun b => Directive.isCoveredBy b d then some d else best) none
  (chosen.map Directive.level).getD .off

/-- A record of level `info` is written. -/
def admits (ds : List Directive) (r : Record) : Bool := Level.info.rank ≤ (levelFor ds r).rank

end ReplyPipeline.Log
