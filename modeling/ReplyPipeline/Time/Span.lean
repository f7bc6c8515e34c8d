import ReplyPipeline.Json.Decode

/-!
# Spans of time

A span is a number of nanoseconds whose whole seconds fit into 64 bits. As JSON it is a record of
seconds and nanoseconds; in messages it is a decimal number of the greatest unit that it reaches.
-/
namespace ReplyPipeline

/-- Nanoseconds of which there are too many for a span. -/
def Span.bound : Nat := 2 ^ 64 * 10 ^ 9

structure Span where
  nanos : Nat
  lt_bound : nanos < Span.bound
  deriving DecidableEq, Repr

namespace Span

def zero : Span := ⟨0, by decide⟩

instance : Inhabited Span := ⟨zero⟩

def longest : Span := ⟨bound - 1, by decide⟩

/-- The span of a number of nanoseconds, if there is one. -/
def ofNanos? (n : Nat) : Option Span := if h : n < bound then some ⟨n, h⟩ else none

def seconds (n : UInt64) : Span :=
  ⟨n.toNat * 10 ^ 9, by
    have := n.toNat_lt
    simp only [bound]
    omega⟩

def millis (n : UInt64) : Span :=
  ⟨n.toNat * 10 ^ 6, by
    have := n.toNat_lt
    simp only [bound]
    omega⟩

/-- Several times the span, if there is such a span. -/
def times? (s : Span) (factor : Nat) : Option Span := ofNanos? (s.nanos * factor)

def min (s t : Span) : Span := if t.nanos < s.nanos then t else s

def wholeSeconds (s : Span) : Nat := s.nanos / 10 ^ 9

/-- The nanoseconds behind the whole seconds. -/
def subNanos (s : Span) : Nat := s.nanos % 10 ^ 9

def wholeMillis (s : Span) : Nat := s.nanos / 10 ^ 6

/-- A whole number and `places` decimals without the zeros at their end. -/
def decimalText (whole fraction places : Nat) : String :=
  let digits := (Decimal.padded places fraction).toList.reverse.dropWhile (· == '0')
  if digits.isEmpty then Decimal.showNat whole
  else Decimal.showNat whole ++ "." ++ String.ofList digits.reverse

/-- The span in seconds, or else in the greatest of milliseconds, microseconds and nanoseconds
that it reaches. -/
def text (s : Span) : String :=
  if 10 ^ 9 ≤ s.nanos then decimalText s.wholeSeconds s.subNanos 9 ++ "s"
  else if 10 ^ 6 ≤ s.nanos then decimalText (s.nanos / 10 ^ 6) (s.nanos % 10 ^ 6) 6 ++ "ms"
  else if 10 ^ 3 ≤ s.nanos then decimalText (s.nanos / 10 ^ 3) (s.nanos % 10 ^ 3) 3 ++ "µs"
  else Decimal.showNat s.nanos ++ "ns"

def chars (s : Span) : List Char :=
  Json.recordChars [("secs", Decimal.natText s.wholeSeconds), ("nanos", Decimal.natText s.subNanos)]

structure Draft where
  seconds : Option Nat := none
  nanos : Option Nat := none

/-- The span that was read. More than a second's worth of nanoseconds is carried over. -/
def ofDraft (d : Draft) : Except Json.Mismatch Span := do
  let secs ← Json.required "secs" d.seconds
  let nanos ← Json.required "nanos" d.nanos
  match ofNanos? (secs * 10 ^ 9 + nanos) with
  | some s => .ok s
  | none => .error (.custom "overflow deserializing Duration")

def reader : Json.Reader Span :=
  Json.record (.closedTo "struct Duration")
    [.of "secs" Json.u64 Draft.seconds (fun n d => { d with seconds := some n }) false,
     .of "nanos" Json.u32 Draft.nanos (fun n d => { d with nanos := some n }) false]
    {} ofDraft

end Span
end ReplyPipeline
