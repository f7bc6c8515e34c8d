import ReplyPipeline.Time.Span

/-!
# Retries

A task that failed is tried again after a delay that doubles from failure to failure, until it has
failed a given number of times. Failures are counted from one, after the failure.
-/
namespace ReplyPipeline

/-- How often a task is tried, and how long the delays are. -/
structure RetryPolicy where
  /-- The number of failures after which a task is given up. -/
  maxAttempts : UInt32
  /-- The delay after the first failure. -/
  baseDelay : Span
  /-- No delay is longer than this. -/
  maxDelay : Option Span
  deriving DecidableEq, Repr

/-- What to do with a task after a failure. -/
inductive RetryDecision where
  | retry (attempt : UInt32) (delay : Span)
  | giveUp (attempts : UInt32)
  deriving DecidableEq, Repr

namespace RetryPolicy

/-- Three attempts, and five seconds after the first one. -/
def standard : RetryPolicy := ⟨3, Span.seconds 5, none⟩

instance : Inhabited RetryPolicy := ⟨standard⟩

/-- There is another attempt after the given number of failures. -/
def shouldRetry (p : RetryPolicy) (attempt : UInt32) : Bool := attempt < p.maxAttempts

/-- The base delay, doubled for every failure after the first. The factor is below 2^32; beyond
that and beyond the longest span the delay is the longest span. -/
def doubled (p : RetryPolicy) (attempt : UInt32) : Span :=
  let doublings := attempt.toNat - 1
  if doublings < 32 then (p.baseDelay.times? (2 ^ doublings)).getD Span.longest
  else Span.longest

/-- The delay after a number of failures. -/
def backoff (p : RetryPolicy) (attempt : UInt32) : Span :=
  if attempt = 0 then Span.zero
  else
    match p.maxDelay with
    | some cap => (p.doubled attempt).min cap
    | none => p.doubled attempt

def decide (p : RetryPolicy) (attempt : UInt32) : RetryDecision :=
  if p.shouldRetry attempt then .retry attempt (p.backoff attempt) else .giveUp attempt

def chars (p : RetryPolicy) : List Char :=
  Json.recordChars
    [("max_attempts", Decimal.natText p.maxAttempts.toNat),
     ("base_delay", p.baseDelay.chars),
     ("max_delay", Json.optionChars Span.chars p.maxDelay)]

structure Draft where
  maxAttempts : Option Nat := none
  baseDelay : Option Span := none
  maxDelay : Option (Option Span) := none

def ofDraft (d : Draft) : Except Json.Mismatch RetryPolicy := do
  let maxAttempts ← Json.required "max_attempts" d.maxAttempts
  let baseDelay ← Json.required "base_delay" d.baseDelay
  return ⟨UInt32.ofNat maxAttempts, baseDelay, d.maxDelay.getD none⟩

def reader : Json.Reader RetryPolicy :=
  Json.record (.open "struct RetryPolicy" 3)
    [.of "max_attempts" Json.u32 Draft.maxAttempts
       (fun n d => { d with maxAttempts := some n }) false,
     .of "base_delay" Span.reader Draft.baseDelay (fun s d => { d with baseDelay := some s }) false,
     .of "max_delay" (Json.optional Span.reader) Draft.maxDelay
       (fun s d => { d with maxDelay := some s }) false]
    {} ofDraft

end RetryPolicy
end ReplyPipeline
