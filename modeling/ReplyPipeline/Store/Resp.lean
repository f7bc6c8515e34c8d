import ReplyPipeline.Decimal.Integer
import ReplyPipeline.Store.Basic
import ReplyPipeline.Text.Utf8

/-!
# A store behind RESP

Calls of the store as commands of the Redis protocol, and what the replies to them mean. Entries
expire after a number of milliseconds, which is one at least. A reply that is an error, or that is
not of the kind which the command asks for, is an error of the command.
-/
namespace ReplyPipeline.Store.Resp

/-- The milliseconds after which an entry expires. -/
def ttlMillis (ttl : Span) : Nat := max 1 (min (2 ^ 64 - 1) ttl.wholeMillis)

/-- The words of a call. -/
def words : Call → List String
  | .setIfAbsent key value ttl =>
    ["SET", key, value, "PX", Decimal.showNat (ttlMillis ttl), "NX"]
  | .set key value ttl => ["SET", key, value, "PX", Decimal.showNat (ttlMillis ttl)]
  | .contains key => ["EXISTS", key]
  | .get key => ["GET", key]
  | .delete key => ["DEL", key]
  | .ping => ["PING"]

inductive Reply where
  | nil
  | text (octets : Bytes)
  | integer (n : Int)
  | array
  | error
  /-- Not a reply at all. -/
  | malformed
  deriving DecidableEq, Repr

namespace Reply

/-- A line and what stands behind its end. -/
def line : Bytes → Option (Bytes × Bytes)
  | 13 :: 10 :: rest => some ([], rest)
  | b :: rest => (line rest).map fun (l, r) => (b :: l, r)
  | [] => none

/-- The whole number of 64 bits that octets spell. -/
def integer? (octets : Bytes) : Option Int := do
  (Decimal.readInteger .i64 (← Text.Utf8.decode? octets)).toOption

/-- The text of a given number of octets. -/
def sized (size : Int) (rest : Bytes) : Reply :=
  if size < 0 then .nil
  else if rest.length < size.toNat + 2 then .malformed
  else .text (rest.take size.toNat)

def ofBytes (bs : Bytes) : Reply :=
  match bs with
  | [] => .malformed
  | mark :: rest =>
    match line rest with
    | none => .malformed
    | some (l, rest) =>
      if mark = '+'.toUInt8 then .text l
      else if mark = '-'.toUInt8 then .error
      else if mark = '_'.toUInt8 then .nil
      else
        match integer? l with
        | none => .malformed
        | some n =>
          if mark = ':'.toUInt8 then .integer n
          else if mark = '$'.toUInt8 then sized n rest
          else if mark = '*'.toUInt8 then (if n < 0 then .nil else .array)
          else .malformed

/-- The text that a reply is. -/
def text? : Reply → Option String
  | .text octets => Text.Utf8.decode? octets
  | _ => none

/-- The number that a reply is, or that its text spells. -/
def number? : Reply → Option Int
  | .integer n => some n
  | .text octets => integer? octets
  | _ => none

end Reply

/-- What is wrong with a reply that does not answer its command. -/
def unexpected : Error := .command "unexpected reply"

/-- What a reply means for a call. -/
def answer (r : Reply) : (c : Call) → Except Error c.Answer
  | .setIfAbsent .. =>
    match r with
    | .nil => .ok false
    | r => if r.text?.isSome then .ok true else .error unexpected
  | .set .. =>
    match r with
    | .error => .error unexpected
    | .malformed => .error unexpected
    | _ => .ok ()
  | .contains _ =>
    match r.number? with
    | some n => .ok (0 < n : Bool)
    | none => .error unexpected
  | .get _ =>
    match r with
    | .nil => .ok none
    | r =>
      match r.text? with
      | some s => .ok (some s)
      | none => .error unexpected
  | .delete _ => if r.number?.isSome then .ok () else .error unexpected
  | .ping => if r.text?.isSome then .ok () else .error unexpected

end ReplyPipeline.Store.Resp
