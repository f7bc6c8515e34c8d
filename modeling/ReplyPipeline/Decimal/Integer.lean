/-!
# Whole numbers as decimal text

Writing is the usual one. Reading takes an optional sign and digits and nothing else, and reports
the first thing that is wrong from left to right: an empty text, a character that is no digit, or
the digit with which the value leaves its bounds.
-/

-- Powers of whole numbers are those of the core library, also where a library that is in scope has
-- powers of its own.
attribute [instance (20000), default_instance 20000] instPowNat

namespace ReplyPipeline.Decimal

/-- The bounds of a kind of whole number, and whether a minus sign may stand before it. -/
structure Width where
  low : Int
  high : Int
  signed : Bool
  deriving DecidableEq, Repr

def Width.i64 : Width := ⟨-2 ^ 63, 2 ^ 63 - 1, true⟩

def Width.u64 : Width := ⟨0, 2 ^ 64 - 1, false⟩

def Width.u32 : Width := ⟨0, 2 ^ 32 - 1, false⟩

def Width.u16 : Width := ⟨0, 2 ^ 16 - 1, false⟩

def Width.holds (w : Width) (n : Int) : Bool := w.low ≤ n && n ≤ w.high

inductive IntegerError where
  | empty
  | invalidDigit
  | tooLarge
  | tooSmall
  deriving DecidableEq, Repr

def IntegerError.message : IntegerError → String
  | .empty => "cannot parse integer from empty string"
  | .invalidDigit => "invalid digit found in string"
  | .tooLarge => "number too large to fit in target type"
  | .tooSmall => "number too small to fit in target type"

def digitValue? (c : Char) : Option Nat :=
  if '0' ≤ c && c ≤ '9' then some (c.toNat - '0'.toNat) else none

/-- Digits after a minus sign (`negative`) or none, added to the value of those before. -/
def readDigits (w : Width) (negative : Bool) : Int → List Char → Except IntegerError Int
  | value, [] => .ok value
  | value, c :: rest =>
    match digitValue? c with
    | none => .error .invalidDigit
    | some d =>
      let next : Int := if negative then value * 10 - d else value * 10 + d
      if w.high < next then .error .tooLarge
      else if next < w.low then .error .tooSmall
      else readDigits w negative next rest

/-- A whole number within the bounds of `w`. A sign alone is not a number. -/
def readInteger (w : Width) (s : String) : Except IntegerError Int :=
  match s.toList with
  | [] => .error .empty
  | ['+'] => .error .invalidDigit
  | ['-'] => .error .invalidDigit
  | '+' :: digits => readDigits w false 0 digits
  | '-' :: digits =>
    if w.signed then readDigits w true 0 digits else .error .invalidDigit
  | digits => readDigits w false 0 digits

def natText (n : Nat) : List Char := Nat.toDigits 10 n

/-- The digits of a whole number, after a minus sign if it is negative. -/
def intText : Int → List Char
  | .ofNat n => natText n
  | .negSucc n => '-' :: natText (n + 1)

def showInt (n : Int) : String := String.ofList (intText n)

def showNat (n : Nat) : String := String.ofList (natText n)

/-- A natural number with zeros before it up to a number of places. -/
def padded (places n : Nat) : String :=
  let ds := natText n
  String.ofList (List.replicate (places - ds.length) '0' ++ ds)

end ReplyPipeline.Decimal
