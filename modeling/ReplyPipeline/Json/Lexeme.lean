import ReplyPipeline.Json.Fault
import ReplyPipeline.Text.Basic

/-!
# The words of JSON text

Readers take the unread octets and give what they read with the octets left. This module reads
blanks, fixed words, texts and numbers, and passes over texts and numbers whose value nobody
wants; passing over checks less, namely neither the pairing of surrogates nor well-formed UTF-8
nor the range of a number.
-/
namespace ReplyPipeline.Json

/-- A fault behind the octets read so far. -/
def faultHere {α : Type} (rest : Bytes) (c : Cause) : Except Fault α := .error ⟨c, rest.length⟩

/-- A fault at the next octet. -/
def faultNext {α : Type} (rest : Bytes) (c : Cause) : Except Fault α :=
  .error ⟨c, rest.length - 1⟩

def octet (c : Char) : UInt8 := c.val.toUInt8

/-- Space, tab, line feed and carriage return may stand between words. -/
def isSpace (b : UInt8) : Bool := b == 0x20 || b == 0x09 || b == 0x0A || b == 0x0D

/-- The text from its first octet that is no blank. -/
def skipSpaces (bs : Bytes) : Bytes := bs.dropWhile isSpace

def readWord : List Char → Bytes → Except Fault Bytes
  | [], bs => .ok bs
  | _ :: _, [] => faultHere [] .endInValue
  | c :: cs, b :: bs => if b == octet c then readWord cs bs else faultHere bs .expectedIdent

def hexValue? (b : UInt8) : Option Nat := Text.Hex.digitValue? (Char.ofNat b.toNat)

def hexValues? (a b c d : UInt8) : Option Nat :=
  match hexValue? a, hexValue? b, hexValue? c, hexValue? d with
  | some a, some b, some c, some d => some (((a * 16 + b) * 16 + c) * 16 + d)
  | _, _, _, _ => none

/-- The octet that a one-letter escape stands for. -/
def simpleEscape? (e : UInt8) : Option UInt8 :=
  if e == octet '"' || e == octet '\\' || e == octet '/' then some e
  else if e == octet 'b' then some 0x08
  else if e == octet 'f' then some 0x0C
  else if e == octet 'n' then some 0x0A
  else if e == octet 'r' then some 0x0D
  else if e == octet 't' then some 0x09
  else none

def isLeading (n : Nat) : Bool := 0xD800 ≤ n && n ≤ 0xDBFF

def isTrailing (n : Nat) : Bool := 0xDC00 ≤ n && n ≤ 0xDFFF

/-- Octets in reverse, with those of one more character before them. -/
def pushChar (n : Nat) (reversed : Bytes) : Bytes :=
  (String.utf8EncodeChar (Char.ofNat n)).reverse ++ reversed

/-- The octets that a text stands for, from behind its opening quote or from within it; `reversed`
holds those before, last one first. -/
def readOctets (reversed : Bytes) : Bytes → Except Fault (Bytes × Bytes)
  | [] => faultHere [] .endInString
  | b :: rest =>
    if b == octet '"' then .ok (reversed.reverse, rest)
    else if b == octet '\\' then
      match rest with
      | [] => faultHere [] .endInString
      | e :: rest =>
        match simpleEscape? e with
        | some o => readOctets (o :: reversed) rest
        | none =>
          if e != octet 'u' then faultHere rest .invalidEscape
          else
            match rest with
            | h1 :: h2 :: h3 :: h4 :: rest =>
              match hexValues? h1 h2 h3 h4 with
              | none => faultHere rest .invalidEscape
              | some n =>
                if isTrailing n then faultHere rest .loneSurrogate
                else if !isLeading n then readOctets (pushChar n reversed) rest
                else
                  match rest with
                  | [] => faultHere [] .endInString
                  | x :: rest =>
                    if x != octet '\\' then faultHere rest .unfinishedSurrogatePair
                    else
                      match rest with
                      | [] => faultHere [] .endInString
                      | y :: rest =>
                        if y != octet 'u' then faultHere rest .unfinishedSurrogatePair
                        else
                          match rest with
                          | k1 :: k2 :: k3 :: k4 :: rest =>
                            match hexValues? k1 k2 k3 k4 with
                            | none => faultHere rest .invalidEscape
                            | some m =>
                              if isTrailing m then
                                let pair := (n - 0xD800) * 0x400 + (m - 0xDC00) + 0x10000
                                readOctets (pushChar pair reversed) rest
                              else faultHere rest .loneSurrogate
                          | _ => faultHere [] .endInString
            | _ => faultHere [] .endInString
    else if b < 0x20 then faultHere rest .controlCharacter
    else readOctets (b :: reversed) rest

/-- The text behind an opening quote. Once it has ended it is checked for well-formed UTF-8, and
the fault is at the first octet that is not. -/
def readText (bs : Bytes) : Except Fault (String × Bytes) := do
  let (octets, rest) ← readOctets [] bs
  match Text.Utf8.decode? octets with
  | some s => .ok (s, rest)
  | none => faultNext (bs.drop (Text.Utf8.wellFormedLength bs)) .invalidCodePoint

def skipText : Bytes → Except Fault Bytes
  | [] => faultHere [] .endInString
  | b :: rest =>
    if b == octet '"' then .ok rest
    else if b == octet '\\' then
      match rest with
      | [] => faultHere [] .endInString
      | e :: rest =>
        if (simpleEscape? e).isSome then skipText rest
        else if e != octet 'u' then faultHere rest .invalidEscape
        else
          match rest with
          | h1 :: h2 :: h3 :: h4 :: rest =>
            if (hexValues? h1 h2 h3 h4).isSome then skipText rest
            else faultHere rest .invalidEscape
          | _ => faultHere [] .endInString
    else if b < 0x20 then faultHere (b :: rest) .controlCharacter
    else skipText rest

/-! ## Numbers -/

def isDigit (b : UInt8) : Bool := 0x30 ≤ b && b ≤ 0x39

def takeDigits (bs : Bytes) : List Nat × Bytes :=
  ((bs.takeWhile isDigit).map fun b => b.toNat - 0x30, bs.dropWhile isDigit)

/-- Digits appended to a mantissa while it stays below 2^64, and how many of them were. -/
def appendDigits (mantissa : Nat) : List Nat → Nat × Nat
  | [] => (mantissa, 0)
  | d :: ds =>
    if mantissa * 10 + d < 2 ^ 64 then
      let (m, taken) := appendDigits (mantissa * 10 + d) ds
      (m, taken + 1)
    else (mantissa, 0)

/-- The number of double precision nearest to a power of ten up to 10^308. -/
def tenTo (k : Nat) : Option Decimal.Binary := Decimal.Format.double.ofNat (10 ^ k)

/-- A mantissa of at most 64 bits times a power of ten. The mantissa is rounded, then multiplied
or divided by the rounded power; a power below 10^-308 takes two divisions. What is too large is
`none`, what is too small is zero. -/
def ofParts (mantissa : Nat) (exponent : Int) : Option Decimal.Binary := do
  let f ← Decimal.Format.double.ofNat mantissa
  match exponent with
  | .ofNat k =>
    if k ≤ 308 then Decimal.Format.double.mul f (← tenTo k)
    else if f.isZero then some f else none
  | .negSucc k =>
    let k := k + 1
    if k ≤ 308 then Decimal.Format.double.div f (← tenTo k)
    else if k ≤ 616 then
      Decimal.Format.double.div (← Decimal.Format.double.div f (← tenTo 308)) (← tenTo (k - 308))
    else some ⟨false, 0, Decimal.Format.double.minExponent⟩

def signed (negative : Bool) (x : Decimal.Binary) : Decimal.Binary :=
  if negative then x.neg else x

/-- A number made of its parts, in front of `rest`. -/
def realOfParts (negative : Bool) (mantissa : Nat) (exponent : Int) (rest : Bytes) :
    Except Fault (Number × Bytes) :=
  match ofParts mantissa exponent with
  | some x => .ok (.real (signed negative x), rest)
  | none => faultHere rest .numberOutOfRange

/-- The digits of an exponent, while their value stays below 2^31. The last component is the text
behind the digit with which it left that bound. -/
def readExponentDigits (value : Nat) : Bytes → Nat × Bytes × Option Bytes
  | [] => (value, [], none)
  | b :: rest =>
    if isDigit b then
      let next := value * 10 + (b.toNat - 0x30)
      if next < 2 ^ 31 then readExponentDigits next rest else (value, rest, some rest)
    else (value, b :: rest, none)

/-- The sign of an exponent, and what stands behind it. -/
def exponentSign : Bytes → Bool × Bytes
  | b :: rest =>
    if b == octet '+' then (false, rest)
    else if b == octet '-' then (true, rest)
    else (false, b :: rest)
  | [] => (false, [])

/-- The number from behind the letter of its exponent on. -/
def readExponent (negative : Bool) (mantissa : Nat) (exponent : Int) (bs : Bytes) :
    Except Fault (Number × Bytes) :=
  let (down, bs) := exponentSign bs
  match bs with
  | [] => faultHere [] .endInValue
  | b :: rest =>
    if !isDigit b then faultHere rest .invalidNumber
    else
      match readExponentDigits 0 bs with
      | (e, rest, none) =>
        realOfParts negative mantissa (if down then exponent - e else exponent + e) rest
      | (_, _, some rest) =>
        if mantissa != 0 && !down then faultHere rest .numberOutOfRange
        else
          let zero : Decimal.Binary := ⟨negative, 0, Decimal.Format.double.minExponent⟩
          .ok (.real zero, rest.dropWhile isDigit)

/-- The number from behind its point on. -/
def readFraction (negative : Bool) (mantissa : Nat) (exponent : Int) (bs : Bytes) :
    Except Fault (Number × Bytes) :=
  let (digits, rest) := takeDigits bs
  if digits.isEmpty then
    faultNext rest (if rest.isEmpty then .endInValue else .invalidNumber)
  else
    let (m, taken) := appendDigits mantissa digits
    let e := exponent - taken
    match rest with
    | b :: after =>
      if b == octet 'e' || b == octet 'E' then readExponent negative m e after
      else realOfParts negative m e rest
    | [] => realOfParts negative m e rest

/-- The number of given leading digits, from behind them on. Without point and exponent it is a
whole number if it has at most 64 bits, and `-0` is a number of double precision. -/
def readAfterDigits (negative : Bool) (digits : List Nat) (bs : Bytes) :
    Except Fault (Number × Bytes) :=
  let (m, taken) := appendDigits 0 digits
  let dropped := digits.length - taken
  let plain : Except Fault (Number × Bytes) :=
    if dropped != 0 then realOfParts negative m dropped bs
    else if !negative then .ok (.integer m, bs)
    else if m == 0 || 2 ^ 63 < m then realOfParts true m 0 bs
    else .ok (.integer (-(m : Int)), bs)
  match bs with
  | b :: rest =>
    if b == octet '.' then readFraction negative m dropped rest
    else if b == octet 'e' || b == octet 'E' then readExponent negative m dropped rest
    else plain
  | [] => plain

/-- A number behind its sign. A zero is no leading digit. -/
def readUnsigned (negative : Bool) : Bytes → Except Fault (Number × Bytes)
  | [] => faultHere [] .endInValue
  | b :: rest =>
    if b == octet '0' then
      match rest with
      | c :: _ =>
        if isDigit c then faultNext rest .invalidNumber else readAfterDigits negative [0] rest
      | [] => readAfterDigits negative [0] rest
    else if isDigit b then
      let (digits, after) := takeDigits (b :: rest)
      readAfterDigits negative digits after
    else faultHere rest .invalidNumber

def readNumber (bs : Bytes) : Except Fault (Number × Bytes) :=
  match bs with
  | b :: rest => if b == octet '-' then readUnsigned true rest else readUnsigned false bs
  | [] => readUnsigned false []

def skipExponent (bs : Bytes) : Except Fault Bytes :=
  let bs := match bs with
    | b :: rest => if b == octet '+' || b == octet '-' then rest else bs
    | [] => []
  match bs with
  | [] => faultHere [] .invalidNumber
  | b :: rest => if isDigit b then .ok (rest.dropWhile isDigit) else faultHere rest .invalidNumber

/-- Passes over a number behind its sign. -/
def skipUnsigned : Bytes → Except Fault Bytes
  | [] => faultHere [] .invalidNumber
  | b :: rest => do
    let rest ←
      if b == octet '0' then
        match rest with
        | c :: _ => if isDigit c then faultNext rest .invalidNumber else .ok rest
        | [] => .ok rest
      else if isDigit b then .ok (rest.dropWhile isDigit)
      else faultHere rest .invalidNumber
    match rest with
    | c :: after =>
      if c == octet 'e' || c == octet 'E' then skipExponent after
      else if c == octet '.' then
        match after with
        | [] => faultNext [] .invalidNumber
        | d :: behind =>
          if !isDigit d then faultNext after .invalidNumber
          else
            let behind := behind.dropWhile isDigit
            match behind with
            | e :: last =>
              if e == octet 'e' || e == octet 'E' then skipExponent last else .ok behind
            | [] => .ok []
      else .ok rest
    | [] => .ok []

def startsNumber (b : UInt8) : Bool := b == octet '-' || isDigit b

end ReplyPipeline.Json
