import ReplyPipeline.Decimal.Integer
import ReplyPipeline.Text.Basic

/-!
# Socket addresses

An address of four octets or of eight groups, and a port. Four octets are written in decimal with
points between them and no leading zeros. Eight groups are written in hexadecimal inside brackets
with colons between them; `::` stands for a stretch of zero groups, the last two groups may be
written as four octets, and a zone may follow behind `%`. In writing, `::` stands for the first of
the longest stretches of two zero groups or more.
-/
namespace ReplyPipeline.Net

/-- An address and a port. -/
inductive SocketAddress where
  | four (octets : List Nat) (port : Nat)
  | six (groups : List Nat) (zone : Nat) (port : Nat)
  deriving DecidableEq, Repr

namespace SocketAddress

/-- A number below `bound` in some base, and what stands behind it. -/
def readNumber (base : Nat) (value? : Char → Option Nat) (bound : Nat) (cs : List Char) :
    Option (Nat × List Char) :=
  let digits := cs.takeWhile fun c => (value? c).isSome
  let n := digits.foldl (fun n c => n * base + (value? c).getD 0) 0
  if digits.isEmpty || bound ≤ n then none else some (n, cs.drop digits.length)

def readDecimal (bound : Nat) : List Char → Option (Nat × List Char) :=
  readNumber 10 Decimal.digitValue? bound

/-- An octet: at most three digits, and no leading zero. -/
def readOctet (cs : List Char) : Option (Nat × List Char) :=
  match readDecimal 256 cs with
  | none => none
  | some (n, rest) =>
    let digits := cs.length - rest.length
    if 3 < digits || (cs.head? == some '0' && 1 < digits) then none else some (n, rest)

/-- A group: at most four hexadecimal digits. -/
def readGroup (cs : List Char) : Option (Nat × List Char) :=
  match readNumber 16 Text.Hex.digitValue? (2 ^ 16) cs with
  | none => none
  | some (n, rest) => if 4 < cs.length - rest.length then none else some (n, rest)

/-- One character that has to be there. -/
def readMark (c : Char) : List Char → Option (List Char)
  | d :: rest => if c = d then some rest else none
  | [] => none

def readOctets (cs : List Char) : Option (List Nat × List Char) := do
  let (a, cs) ← readOctet cs
  let (b, cs) ← readOctet (← readMark '.' cs)
  let (c, cs) ← readOctet (← readMark '.' cs)
  let (d, cs) ← readOctet (← readMark '.' cs)
  return ([a, b, c, d], cs)

/-- What a reader reads behind a colon, or without one in first place. -/
def afterColon {α : Type} (first : Bool) (read : List Char → Option α) (cs : List Char) :
    Option α :=
  if first then read cs else (readMark ':' cs).bind read

/-- Up to a number of groups with colons between them, and whether the last two were written as
four octets. -/
def readGroups : Nat → Bool → List Char → (List Nat × Bool) × List Char
  | 0, _, cs => (([], false), cs)
  | left + 1, first, cs =>
    let octets := if left = 0 then none else afterColon first readOctets cs
    match octets with
    | some ([a, b, c, d], rest) => (([a * 256 + b, c * 256 + d], true), rest)
    | _ =>
      match afterColon first readGroup cs with
      | some (g, rest) =>
        let ((gs, octets), rest) := readGroups left false rest
        ((g :: gs, octets), rest)
      | none => (([], false), cs)

/-- Eight groups. -/
def readSix (cs : List Char) : Option (List Nat × List Char) :=
  let ((front, octets), rest) := readGroups 8 true cs
  if front.length = 8 then some (front, rest)
  else if octets then none
  else do
    let rest ← readMark ':' (← readMark ':' rest)
    let ((back, _), rest) := readGroups (7 - front.length) true rest
    return (front ++ List.replicate (8 - front.length - back.length) 0 ++ back, rest)

def readPort (cs : List Char) : Option Nat := do
  let (port, rest) ← readDecimal (2 ^ 16) (← readMark ':' cs)
  if rest.isEmpty then return port else none

def readZone (cs : List Char) : Option (Nat × List Char) :=
  match readMark '%' cs with
  | none => some (0, cs)
  | some rest => readDecimal (2 ^ 32) rest

def readFour (cs : List Char) : Option SocketAddress := do
  let (octets, rest) ← readOctets cs
  return .four octets (← readPort rest)

/-- An address of eight groups with a port. -/
def readBracketed (cs : List Char) : Option SocketAddress := do
  let (groups, rest) ← readSix (← readMark '[' cs)
  let (zone, rest) ← readZone rest
  return .six groups zone (← readPort (← readMark ']' rest))

def ofText? (s : String) : Option SocketAddress :=
  (readFour s.toList).or (readBracketed s.toList)

def octetsText (octets : List Nat) : String :=
  String.intercalate "." (octets.map Decimal.showNat)

def groupsText (groups : List Nat) : String :=
  String.intercalate ":" (groups.map fun g => String.ofList (Nat.toDigits 16 g))

def leadingZeros (groups : List Nat) : Nat := (groups.takeWhile (· == 0)).length

/-- The place and the length of the first of the longest stretches of zeros, from `place` on. -/
def longestZeros (place : Nat) : List Nat → Nat × Nat
  | [] => (place, 0)
  | g :: rest =>
    let here := leadingZeros (g :: rest)
    let (later, count) := longestZeros (place + 1) rest
    if count ≤ here then (place, here) else (later, count)

/-- Eight groups as they are written. An address of four octets inside one of eight groups shows
its octets. -/
def sixText (groups : List Nat) : String :=
  match groups with
  | [0, 0, 0, 0, 0, 0xffff, g, h] =>
    "::ffff:" ++ octetsText [g / 256, g % 256, h / 256, h % 256]
  | _ =>
    let (place, count) := longestZeros 0 groups
    if 1 < count then
      groupsText (groups.take place) ++ "::" ++ groupsText (groups.drop (place + count))
    else groupsText groups

def text : SocketAddress → String
  | .four octets port => octetsText octets ++ ":" ++ Decimal.showNat port
  | .six groups zone port =>
    let zoned := if zone = 0 then "" else "%" ++ Decimal.showNat zone
    "[" ++ sixText groups ++ zoned ++ "]:" ++ Decimal.showNat port

/-- Every machine has the address: it is the one that stands for all of the machine's own, or it is
among those by which the machine reaches itself. Four octets may stand behind groups that mark
them as such. -/
def isEverywhere : SocketAddress → Bool
  | .four octets _ => octets == [0, 0, 0, 0] || octets.head? == some 127
  | .six groups _ _ =>
    let last := groups.drop 6
    groups.take 6 == [0, 0, 0, 0, 0, 0xffff] &&
        (last == [0, 0] || (last.head?.any fun g => g / 256 = 127)) ||
      groups == [0, 0, 0, 0, 0, 0, 0, 0] || groups == [0, 0, 0, 0, 0, 0, 0, 1]

end SocketAddress
end ReplyPipeline.Net
