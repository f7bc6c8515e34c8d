import ReplyPipeline.Text.Basic

/-!
# UTF-8

Texts cross the pipeline as octets. `encode` writes them; `scan` reads octets as a sequence of
characters and of ill-formed stretches, from which follow the strict reading `decode?` and the
forgiving reading `decodeLossy`. An ill-formed stretch is as long as a well-formed character could
have begun with it, so that the forgiving reading puts one replacement character for each.
-/
namespace ReplyPipeline

abbrev Bytes := List UInt8

namespace Text.Utf8

def encode (cs : List Char) : Bytes := cs.flatMap String.utf8EncodeChar

def bytes (s : String) : Bytes := encode s.toList

/-- A character that has begun: how many octets it lacks, the bounds of the next one, and the
value of the octets so far. -/
structure Partial where
  missing : Nat
  low : UInt8
  high : UInt8
  value : Nat
  deriving DecidableEq, Repr

/-- What an octet in the place of a first octet means. -/
inductive Lead where
  | char (c : Char)
  | begun (p : Partial)
  | illFormed
  deriving DecidableEq, Repr

/-- The reading of a first octet. Its range decides the length, and for the first octets E0, ED,
F0 and F4 also narrower bounds of the second one. -/
def Lead.ofByte (b : UInt8) : Lead :=
  if b < 0x80 then .char (Char.ofNat b.toNat)
  else if b < 0xC2 then .illFormed
  else if b < 0xE0 then .begun ⟨1, 0x80, 0xBF, b.toNat - 0xC0⟩
  else if b == 0xE0 then .begun ⟨2, 0xA0, 0xBF, 0⟩
  else if b == 0xED then .begun ⟨2, 0x80, 0x9F, 13⟩
  else if b < 0xF0 then .begun ⟨2, 0x80, 0xBF, b.toNat - 0xE0⟩
  else if b == 0xF0 then .begun ⟨3, 0x90, 0xBF, 0⟩
  else if b < 0xF4 then .begun ⟨3, 0x80, 0xBF, b.toNat - 0xF0⟩
  else if b == 0xF4 then .begun ⟨3, 0x80, 0x8F, 4⟩
  else .illFormed

/-- The partial character after one more octet within its bounds. -/
def Partial.push (p : Partial) (b : UInt8) : Partial :=
  ⟨p.missing - 1, 0x80, 0xBF, p.value * 64 + (b.toNat - 0x80)⟩

/-- Characters, and `none` for each ill-formed stretch, from a character that may have begun. -/
def scanFrom : Option Partial → Bytes → List (Option Char)
  | none, [] => []
  | some _, [] => [none]
  | begun, b :: rest =>
    match begun with
    | some p =>
      if p.low ≤ b && b ≤ p.high then
        if p.missing ≤ 1 then some (Char.ofNat (p.push b).value) :: scanFrom none rest
        else scanFrom (some (p.push b)) rest
      else
        none :: match Lead.ofByte b with
          | .char c => some c :: scanFrom none rest
          | .begun q => scanFrom (some q) rest
          | .illFormed => none :: scanFrom none rest
    | none =>
      match Lead.ofByte b with
      | .char c => some c :: scanFrom none rest
      | .begun q => scanFrom (some q) rest
      | .illFormed => none :: scanFrom none rest

def scan (bs : Bytes) : List (Option Char) := scanFrom none bs

/-- The text that the octets spell, if they are well formed throughout. -/
def decode? (bs : Bytes) : Option String :=
  ((scan bs).mapM id).map String.ofList

/-- How many octets stand before the first ill-formed stretch. -/
def wellFormedLength (bs : Bytes) : Nat :=
  ((scan bs).takeWhile Option.isSome).foldl (fun n c => n + (c.map Char.utf8Size).getD 0) 0

/-- The text that the octets spell, with U+FFFD for each ill-formed stretch. -/
def decodeLossy (bs : Bytes) : String :=
  String.ofList ((scan bs).map (·.getD '\uFFFD'))

end Text.Utf8

/-!
## Percent-encoding

A character that must not stand in a part of a URL is written as its octets, each as `%` and two
hexadecimal digits in upper case. Reading takes any `%` with two hexadecimal digits behind it, in
either case, and leaves every other `%` alone.
-/
namespace Text.Percent

/-- An octet as `%` and two digits. -/
def escape (b : UInt8) : List Char :=
  ['%', (Nat.digitChar (b.toNat / 16)).toUpper, (Nat.digitChar (b.toNat % 16)).toUpper]

/-- A control, or a character beyond ASCII. -/
def isControl (c : Char) : Bool := c.toNat < 0x20 || 0x7e < c.toNat

/-- The text with the characters of a set, controls and all beyond ASCII encoded. -/
def encode (set : List Char) (cs : List Char) : List Char :=
  cs.flatMap fun c =>
    if isControl c || set.contains c then (String.utf8EncodeChar c).flatMap escape else [c]

/-- The octets that a text stands for. -/
def decode : List Char → Bytes
  | '%' :: a :: b :: rest =>
    match Hex.digitValue? a, Hex.digitValue? b with
    | some m, some n => UInt8.ofNat (m * 16 + n) :: decode rest
    | _, _ => String.utf8EncodeChar '%' ++ decode (a :: b :: rest)
  | c :: rest => String.utf8EncodeChar c ++ decode rest
  | [] => []

def decodeText? (s : String) : Option String := Utf8.decode? (decode s.toList)

end Text.Percent
end ReplyPipeline
