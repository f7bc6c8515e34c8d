import ReplyPipeline.Decimal.Integer
import ReplyPipeline.Text.Basic

/-!
# Instants

An instant is a date and a time of day in universal time, to the nanosecond. The second 60 of a
leap second is second 59 with more than a second's worth of nanoseconds.

Writing follows RFC 3339, with as many decimals (none, three, six or nine) as are needed. Reading
is more lenient: parts may have fewer digits than usual, blanks may stand between them, and the
offset may be one of hours and minutes. Of several things that are wrong the first one counts.
-/
namespace ReplyPipeline

/-- A date and a time of day in universal time. -/
structure Instant where
  year : Int
  month : Nat
  day : Nat
  hour : Nat
  minute : Nat
  second : Nat
  /-- From 10^9 on the second is a leap second. -/
  nanos : Nat
  deriving DecidableEq, Repr

inductive InstantError where
  | tooShort
  | tooLong
  | invalid
  | outOfRange
  | impossible
  deriving DecidableEq, Repr

def InstantError.message : InstantError → String
  | .tooShort => "premature end of input"
  | .tooLong => "trailing input"
  | .invalid => "input contains invalid characters"
  | .outOfRange => "input is out of range"
  | .impossible => "no possible date and time matching input"

namespace Instant

/-! ## The calendar -/

/-- The first and the last year that dates go to. -/
def firstYear : Int := -262143

def lastYear : Int := 262142

/-- Has a 29th of February. -/
def isLeapYear (y : Int) : Bool := y % 4 == 0 && (y % 100 != 0 || y % 400 == 0)

def daysIn (y : Int) (m : Nat) : Nat :=
  if m == 2 then if isLeapYear y then 29 else 28
  else if m == 4 || m == 6 || m == 9 || m == 11 then 30
  else 31

def nextDay (t : Instant) : Instant :=
  if t.day < daysIn t.year t.month then { t with day := t.day + 1 }
  else if t.month < 12 then { t with month := t.month + 1, day := 1 }
  else { t with year := t.year + 1, month := 1, day := 1 }

def previousDay (t : Instant) : Instant :=
  if 1 < t.day then { t with day := t.day - 1 }
  else if 1 < t.month then { t with month := t.month - 1, day := daysIn t.year (t.month - 1) }
  else { t with year := t.year - 1, month := 12, day := 31 }

/-- The same moment where it is given with an offset of minutes from universal time. -/
def minusOffset (t : Instant) (offset : Int) : Instant :=
  let total : Int := t.hour * 60 + t.minute - offset
  let shifted := total % 1440
  let moved := { t with hour := (shifted / 60).toNat, minute := (shifted % 60).toNat }
  if total < 0 then moved.previousDay else if 1440 ≤ total then moved.nextDay else moved

/-- The days of a year that come before a month. -/
def daysBefore (y : Int) (m : Nat) : Nat :=
  (List.range (m - 1)).foldl (fun n k => n + daysIn y (k + 1)) 0

/-- The days from the first day of the year 1970. -/
def epochDay (t : Instant) : Int :=
  let years := t.year - 1
  365 * years + years / 4 - years / 100 + years / 400 - 719162 +
    daysBefore t.year t.month + t.day - 1

/-- The whole seconds from the beginning of the year 1970. A leap second counts as the one before
it. -/
def epochSeconds (t : Instant) : Int :=
  ((t.epochDay * 24 + t.hour) * 60 + t.minute) * 60 + t.second

/-! ## Writing -/

/-- The year: four digits, or a sign and at least four digits. -/
def yearText (y : Int) : String :=
  if 0 ≤ y && y ≤ 9999 then Decimal.padded 4 y.toNat
  else (if y < 0 then "-" else "+") ++ Decimal.padded 4 y.natAbs

def fractionText (n : Nat) : String :=
  if n == 0 then ""
  else if n % 10 ^ 6 == 0 then "." ++ Decimal.padded 3 (n / 10 ^ 6)
  else if n % 10 ^ 3 == 0 then "." ++ Decimal.padded 6 (n / 10 ^ 3)
  else "." ++ Decimal.padded 9 n

def text (t : Instant) : String :=
  let leap := 10 ^ 9 ≤ t.nanos
  yearText t.year ++ "-" ++ Decimal.padded 2 t.month ++ "-" ++ Decimal.padded 2 t.day ++ "T" ++
    Decimal.padded 2 t.hour ++ ":" ++ Decimal.padded 2 t.minute ++ ":" ++
    Decimal.padded 2 (if leap then t.second + 1 else t.second) ++
    fractionText (if leap then t.nanos - 10 ^ 9 else t.nanos) ++ "Z"

/-! ## Reading -/

def skipBlank (cs : List Char) : List Char := cs.dropWhile Text.isBlank

/-- The digits in front, no more than `most`, and how many they are. -/
def takeNumber : Nat → List Char → List Nat × List Char
  | 0, cs => ([], cs)
  | _ + 1, [] => ([], [])
  | most + 1, c :: cs =>
    match Decimal.digitValue? c with
    | some d => let (ds, rest) := takeNumber most cs; (d :: ds, rest)
    | none => ([], c :: cs)

/-- The value of digits, which has to fit into 63 bits. -/
def valueOf (ds : List Nat) : Except InstantError Nat :=
  let n := ds.foldl (fun n d => n * 10 + d) 0
  if n < 2 ^ 63 then .ok n else .error .outOfRange

/-- A number of one digit or more, but no more than `most`. -/
def number (most : Nat) (cs : List Char) : Except InstantError (Nat × List Char) :=
  match cs with
  | [] => .error .tooShort
  | _ :: _ =>
    match takeNumber most cs with
    | ([], _) => .error .invalid
    | (ds, rest) => do return (← valueOf ds, rest)

/-- A number of at most two digits within bounds, after blanks. -/
def bounded (low high : Nat) (cs : List Char) : Except InstantError (Nat × List Char) := do
  let (n, rest) ← number 2 (skipBlank cs)
  if low ≤ n && n ≤ high then .ok (n, rest) else .error .outOfRange

/-- A year, which has to fit into 32 bits. -/
def yearOf (n : Int) : Except InstantError Int :=
  if -2 ^ 31 ≤ n && n < 2 ^ 31 then .ok n else .error .outOfRange

/-- A year, after blanks: of at most four digits, or of any number of digits after a sign. -/
def signedYear (cs : List Char) : Except InstantError (Int × List Char) := do
  match skipBlank cs with
  | '-' :: rest =>
    let (n, rest) ← number rest.length rest
    return (← yearOf (-(n : Int)), rest)
  | '+' :: rest =>
    let (n, rest) ← number rest.length rest
    return (← yearOf n, rest)
  | cs =>
    let (n, rest) ← number 4 cs
    return (n, rest)

def mark (m : Char) (cs : List Char) : Except InstantError (List Char) :=
  match skipBlank cs with
  | [] => .error .tooShort
  | c :: rest => if c == m then .ok rest else .error .invalid

/-- What stands between date and time: one blank or the letter T. -/
def dateMark : List Char → Except InstantError (List Char)
  | [] => .error .tooShort
  | c :: rest => if c == 'T' || c == 't' || c == ' ' then .ok rest else .error .invalid

/-- The decimals of a second in nanoseconds, if there is a point; those behind the ninth do not
count. -/
def fraction (cs : List Char) : Except InstantError (Nat × List Char) :=
  match cs with
  | '.' :: rest =>
    match rest with
    | [] => .error .tooShort
    | _ :: _ =>
      match takeNumber 9 rest with
      | ([], _) => .error .invalid
      | (ds, rest) => do
        let n ← valueOf ds
        .ok (n * 10 ^ (9 - ds.length), rest.dropWhile fun c => (Decimal.digitValue? c).isSome)
  | _ => .ok (0, cs)

/-- Two digits that stand directly one behind the other; `octets` counts what is left. -/
def twoDigits (cs : List Char) : Except InstantError ((Nat × Nat) × List Char) :=
  match cs with
  | [] => .error .tooShort
  | [c] => if c.utf8Size < 2 then .error .tooShort else .error .invalid
  | c :: d :: rest =>
    match Decimal.digitValue? c, Decimal.digitValue? d with
    | some c, some d => .ok ((c, d), rest)
    | _, _ => .error .invalid

def offsetMinutes (cs : List Char) : Except InstantError (Nat × List Char) := do
  let ((h, h'), rest) ← twoDigits cs
  let ((m, m'), rest) ← twoDigits (rest.dropWhile fun c => c == ':' || Text.isBlank c)
  if 6 ≤ m then .error .outOfRange
  else .ok ((h * 10 + h') * 60 + (m * 10 + m'), rest)

/-- The offset from universal time in minutes: the letters UTC or Z, or a sign, hours and
minutes. -/
def offset (cs : List Char) : Except InstantError (Int × List Char) :=
  match cs with
  | [] => .error .tooShort
  | c :: rest =>
    if (cs.take 3).map Char.toUpper == ['U', 'T', 'C'] then .ok (0, cs.drop 3)
    else if c == 'Z' || c == 'z' then .ok (0, rest)
    else if c == '+' then (offsetMinutes rest).map fun (n, r) => ((n : Int), r)
    else if c == '-' || c == '\u2212' then (offsetMinutes rest).map fun (n, r) => (-(n : Int), r)
    else .error .invalid

def ofText (s : String) : Except InstantError Instant := do
  let (year, cs) ← signedYear s.toList
  let (month, cs) ← bounded 1 12 (← mark '-' cs)
  let (day, cs) ← bounded 1 31 (← mark '-' cs)
  let (hour, cs) ← bounded 0 23 (← dateMark cs)
  let (minute, cs) ← bounded 0 59 (← mark ':' cs)
  let (second, cs) ← bounded 0 60 (← mark ':' cs)
  let (nanos, cs) ← fraction cs
  let (offset, cs) ← offset (skipBlank cs)
  if !(skipBlank cs).isEmpty then .error .tooLong
  else if year < firstYear || lastYear < year || daysIn year month < day then .error .outOfRange
  else if 1440 ≤ offset.natAbs then .error .outOfRange
  else
    let leap := second == 60
    let there : Instant :=
      ⟨year, month, day, hour, minute, if leap then 59 else second,
        if leap then nanos + 10 ^ 9 else nanos⟩
    let here := there.minusOffset offset
    if here.year < firstYear || lastYear < here.year then .error .impossible else .ok here

end Instant
end ReplyPipeline
