import ReplyPipeline.Decimal.Integer

/-!
# Binary floating-point numbers

A finite binary number is a sign, a mantissa and a power of two. `Format.round` takes an exact
quotient to the nearest number of a format, and a quotient half-way between two to the one with an
even mantissa; what rounds beyond the largest number is `none`. Products and quotients of numbers
are rounded from their exact values, so that all of it is arithmetic of natural numbers.
Infinities and NaN are not numbers here.
-/
namespace ReplyPipeline.Decimal

/-- The number `mantissa * 2 ^ exponent`, with a minus sign if `negative`. -/
structure Binary where
  negative : Bool
  mantissa : Nat
  exponent : Int
  deriving DecidableEq, Repr

/-- A binary interchange format: how many bits a mantissa has, and the least and the greatest
exponent. -/
structure Format where
  precision : Nat
  minExponent : Int
  maxExponent : Int
  deriving DecidableEq, Repr

def Format.double : Format := ⟨53, -1074, 971⟩

def Format.single : Format := ⟨24, -149, 104⟩

/-- The value as a quotient of natural numbers, without its sign. -/
def Binary.fraction (x : Binary) : Nat × Nat :=
  match x.exponent with
  | .ofNat e => (x.mantissa * 2 ^ e, 1)
  | .negSucc e => (x.mantissa, 2 ^ (e + 1))

/-- A quotient to the nearest whole number, a half to the even one. -/
def roundHalfEven (num den : Nat) : Nat :=
  let q := num / den
  let r := num % den
  if 2 * r < den then q else if den < 2 * r then q + 1 else if q % 2 = 0 then q else q + 1

/-- The quotient `num / (den * 2 ^ e)` to the nearest whole number. -/
def scaled (num den : Nat) : Int → Nat
  | .ofNat e => roundHalfEven num (den * 2 ^ e)
  | .negSucc e => roundHalfEven (num * 2 ^ (e + 1)) den

/-- At an exponent the quotient has no more bits before the point than a mantissa. -/
def Format.fits (f : Format) (num den : Nat) : Int → Bool
  | .ofNat k => num < 2 ^ f.precision * (den * 2 ^ k)
  | .negSucc k => num * 2 ^ (k + 1) < 2 ^ f.precision * den

/-- The least exponent at which the quotient fits. -/
def Format.exponentFor (f : Format) (num den : Nat) : Int :=
  let guess : Int := (Nat.log2 num : Int) - Nat.log2 den - f.precision
  let e :=
    if f.fits num den guess then guess
    else if f.fits num den (guess + 1) then guess + 1
    else guess + 2
  max e f.minExponent

/-- The number of the format nearest to `num / den`. -/
def Format.round (f : Format) (negative : Bool) (num den : Nat) : Option Binary :=
  if num = 0 then some ⟨negative, 0, f.minExponent⟩
  else
    let e := f.exponentFor num den
    let m := scaled num den e
    let (m, e) := if m = 2 ^ f.precision then (m / 2, e + 1) else (m, e)
    if f.maxExponent < e then none else some ⟨negative, m, e⟩

def Format.ofNat (f : Format) (n : Nat) : Option Binary := f.round false n 1

/-- The product, rounded. -/
def Format.mul (f : Format) (x y : Binary) : Option Binary :=
  let (a, b) := x.fraction
  let (c, d) := y.fraction
  f.round (x.negative != y.negative) (a * c) (b * d)

/-- The quotient, rounded, of a number by one that is not zero. -/
def Format.div (f : Format) (x y : Binary) : Option Binary :=
  let (a, b) := x.fraction
  let (c, d) := y.fraction
  f.round (x.negative != y.negative) (a * d) (b * c)

def Binary.toFormat (x : Binary) (f : Format) : Option Binary :=
  let (a, b) := x.fraction
  f.round x.negative a b

/-- Is zero, of either sign. -/
def Binary.isZero (x : Binary) : Bool := x.mantissa == 0

def Binary.neg (x : Binary) : Binary := { x with negative := !x.negative }

/-- Equal as numbers: the two zeros are one number. -/
def Binary.sameValue (x y : Binary) : Bool :=
  let (a, b) := x.fraction
  let (c, d) := y.fraction
  a * d == c * b && (x.negative == y.negative || a == 0)

/-- Lies between two natural numbers, both included; zero of either sign is zero. -/
def Binary.within (x : Binary) (low high : Nat) : Bool :=
  let (a, b) := x.fraction
  (!x.negative || a == 0) && low * b ≤ a && a ≤ high * b

end ReplyPipeline.Decimal
