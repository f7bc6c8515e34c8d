import ReplyPipeline.Decimal.Binary
import ReplyPipeline.Decimal.Integer

/-!
# The shortest decimal of a binary number

A number is written with the fewest digits that read back to it, and among those with the ones
nearest to it. `shortest` finds them by testing, for one digit, two digits and so on, the two
points of the decimal grid beside the value against the interval of values that round to it.
`Layout` is the record of decisions on how such digits are laid out.
-/
namespace ReplyPipeline.Decimal

/-- The decimal `digits * 10 ^ exponent`. -/
structure Digits where
  digits : Nat
  exponent : Int
  deriving DecidableEq, Repr

/-- The values that round to a number: twice and four times finer multiples of its last place,
`lower / 4 * 2 ^ exponent` to `upper / 4 * 2 ^ exponent`, the ends being included or not. -/
structure Interval where
  lower : Nat
  upper : Nat
  closed : Bool
  deriving DecidableEq, Repr

/-- The interval that rounds to a number that is not zero. Below a power of two the neighbours
lie half as far apart, except at the least exponent. -/
def Format.interval (f : Format) (x : Binary) : Interval :=
  let m := x.mantissa
  let narrow := m == 2 ^ (f.precision - 1) && f.minExponent < x.exponent
  ⟨if narrow then 4 * m - 1 else 4 * m - 2, 4 * m + 2, m % 2 == 0⟩

/-- The quotient `a * 10 ^ e` as numerator and denominator. -/
def tenPower (a : Nat) : Int → Nat × Nat
  | .ofNat e => (a * 10 ^ e, 1)
  | .negSucc e => (a, 10 ^ (e + 1))

/-- The decimal lies in the interval of a number `v / 4 * 2 ^ exponent`. -/
def Interval.contains (i : Interval) (exponent : Int) (d : Digits) : Bool :=
  let (n, q) := tenPower d.digits d.exponent
  let (p, r) : Nat × Nat :=
    match exponent with
    | .ofNat e => (2 ^ e, 4)
    | .negSucc e => (1, 4 * 2 ^ (e + 1))
  -- compare n / q with (bound * p) / r
  let lhs := n * r
  let low := i.lower * p * q
  let high := i.upper * p * q
  if i.closed then low ≤ lhs && lhs ≤ high else low < lhs && lhs < high

def digitCount (n : Nat) : Nat := (natText n).length

/-- The decimal exponent of the leading digit of `num / den`, which is not zero. -/
def leadingExponent (num den : Nat) : Int :=
  let guess : Int := (digitCount num : Int) - digitCount den
  let reached : Bool :=
    match guess with
    | .ofNat k => den * 10 ^ k ≤ num
    | .negSucc k => den ≤ num * 10 ^ (k + 1)
  if reached then guess else guess - 1

/-- The whole part of `num / den / 10 ^ e`. -/
def gridFloor (num den : Nat) : Int → Nat
  | .ofNat e => num / (den * 10 ^ e)
  | .negSucc e => num * 10 ^ (e + 1) / den

/-- The distance of a decimal from `num / den`, times `den` and the decimal's denominator. -/
def distance (num den : Nat) (d : Digits) : Nat × Nat :=
  let (n, q) := tenPower d.digits d.exponent
  let a := n * den
  let b := num * q
  (if a ≤ b then b - a else a - b, q)

/-- Of two decimals on one grid the one nearer to `num / den`; of two equally near the even one. -/
def nearer (num den : Nat) (d e : Digits) : Digits :=
  let (a, q) := distance num den d
  let (b, r) := distance num den e
  if a * r < b * q then d
  else if b * q < a * r then e
  else if d.digits % 2 = 0 then d else e

/-- The candidates with the last digit at `10 ^ place` that lie in the interval. -/
def onGrid (i : Interval) (exponent : Int) (num den : Nat) (place : Int) : Option Digits :=
  let low : Digits := ⟨gridFloor num den place, place⟩
  let high : Digits := ⟨low.digits + 1, place⟩
  match i.contains exponent low && low.digits != 0, i.contains exponent high with
  | true, true => some (nearer num den low high)
  | true, false => some low
  | false, true => some high
  | false, false => none

/-- The first grid with a candidate, from `place` on, each grid ten times finer than the last. -/
def searchGrids (i : Interval) (exponent : Int) (num den : Nat) : Nat → Int → Digits
  | 0, place => ⟨gridFloor num den place, place⟩
  | tries + 1, place =>
    match onGrid i exponent num den place with
    | some d => d
    | none => searchGrids i exponent num den tries (place - 1)

def Digits.trimZeros : Nat → Digits → Digits
  | 0, d => d
  | fuel + 1, d =>
    if d.digits != 0 && d.digits % 10 == 0 then
      Digits.trimZeros fuel ⟨d.digits / 10, d.exponent + 1⟩
    else d

/-- The shortest decimal that rounds to a number, and the nearest among those. Seventeen digits
always suffice for double precision. -/
def Format.shortest (f : Format) (x : Binary) : Digits :=
  if x.isZero then ⟨0, 0⟩
  else
    let (num, den) := x.fraction
    let d := searchGrids (f.interval x) x.exponent num den 17 (leadingExponent num den)
    d.trimZeros 20

/-- How digits become text. An exponent of the leading digit from `lowest` to `highest` gives
positional notation; `pointZero` puts `.0` behind a whole number. -/
structure Layout where
  lowest : Int
  highest : Int
  pointZero : Bool
  deriving DecidableEq, Repr

def positional (pointZero : Bool) (d : Digits) : List Char :=
  let ds := natText d.digits
  match d.exponent with
  | .ofNat e => ds ++ List.replicate e '0' ++ (if pointZero then ['.', '0'] else [])
  | .negSucc e =>
    let places := e + 1
    if places < ds.length then
      ds.take (ds.length - places) ++ '.' :: ds.drop (ds.length - places)
    else '0' :: '.' :: List.replicate (places - ds.length) '0' ++ ds

/-- Notation with an exponent, which always has a sign. -/
def scientific (d : Digits) : List Char :=
  let ds := natText d.digits
  let e : Int := d.exponent + (ds.length - 1 : Nat)
  let point := match ds with
    | [] => []
    | [c] => [c]
    | c :: rest => c :: '.' :: rest
  point ++ 'e' :: (if e < 0 then '-' else '+') :: natText e.natAbs

/-- The text of digits, laid out as told. -/
def Layout.body (l : Layout) (d : Digits) : List Char :=
  let e : Int := d.exponent + (digitCount d.digits - 1 : Nat)
  if l.lowest ≤ e && e ≤ l.highest then positional l.pointZero d else scientific d

/-- The text of a number in a format, laid out as told. -/
def Layout.text (l : Layout) (f : Format) (x : Binary) : List Char :=
  let body := l.body (f.shortest x)
  if x.negative then '-' :: body else body

end ReplyPipeline.Decimal
