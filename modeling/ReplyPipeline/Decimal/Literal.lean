import ReplyPipeline.Decimal.Shortest

/-!
# Floating-point numbers as decimal text

A literal is a sign, digits with a point anywhere among them, and an exponent, where the sign, the
point and the exponent may be missing; or it is one of the words for infinity and NaN, in any case.
It stands for the number of a binary format nearest to its exact value.
-/
namespace ReplyPipeline.Decimal

/-- What a literal stands for. -/
inductive Literal where
  | finite (x : Binary)
  | infinite (negative : Bool)
  | notANumber
  deriving DecidableEq, Repr

namespace Literal

/-- The number of a format nearest to `digits * 10 ^ exponent`. A value beyond `10 ^ 400` is
infinite and one below `10 ^ -400` zero in every format. -/
def nearest (f : Format) (negative : Bool) (digits : Nat) (exponent : Int) : Literal :=
  let zero : Literal := .finite ⟨negative, 0, f.minExponent⟩
  let leading : Int := digitCount digits + exponent
  if digits = 0 then zero
  else if 400 < leading then .infinite negative
  else if leading < -400 then zero
  else
    let (num, den) := tenPower digits exponent
    match f.round negative num den with
    | some x => .finite x
    | none => .infinite negative

def digitsValue (ds : List Char) : Nat :=
  ds.foldl (fun n c => n * 10 + (digitValue? c).getD 0) 0

def isDigit (c : Char) : Bool := (digitValue? c).isSome

def splitSign : List Char → Bool × List Char
  | '-' :: rest => (true, rest)
  | '+' :: rest => (false, rest)
  | cs => (false, cs)

/-- The exponent at the end of a literal; nothing stands for zero. -/
def exponent? : List Char → Option Int
  | [] => some 0
  | c :: rest =>
    if c == 'e' || c == 'E' then
      let (negative, ds) := splitSign rest
      if ds.isEmpty || !ds.all isDigit then none
      else some (if negative then -(digitsValue ds : Int) else digitsValue ds)
    else none

/-- The fraction behind the digits in front, and what stands behind it. -/
def splitFraction : List Char → List Char × List Char
  | '.' :: rest => (rest.takeWhile isDigit, rest.dropWhile isDigit)
  | cs => ([], cs)

def ofUnsigned (f : Format) (negative : Bool) (cs : List Char) : Option Literal :=
  let word := String.ofList (cs.map Char.toLower)
  if word = "inf" || word = "infinity" then some (.infinite negative)
  else if word = "nan" then some .notANumber
  else
    let whole := cs.takeWhile isDigit
    let (fraction, rest) := splitFraction (cs.dropWhile isDigit)
    if whole.isEmpty && fraction.isEmpty then none
    else (exponent? rest).map fun e =>
      nearest f negative (digitsValue (whole ++ fraction)) (e - fraction.length)

def ofText? (f : Format) (s : String) : Option Literal :=
  let (negative, cs) := splitSign s.toList
  ofUnsigned f negative cs

/-- The text with the fewest digits, in positional notation. -/
def plainText (f : Format) : Literal → String
  | .finite x =>
    let digits := positional false (f.shortest x)
    String.ofList (if x.negative then '-' :: digits else digits)
  | .infinite negative => if negative then "-inf" else "inf"
  | .notANumber => "NaN"

def within (low high : Nat) : Literal → Bool
  | .finite x => x.within low high
  | _ => false

end Literal
end ReplyPipeline.Decimal
