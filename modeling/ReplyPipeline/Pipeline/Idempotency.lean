import ReplyPipeline.Pipeline.Request

/-!
# Idempotency

Two entries of the store keep a task from being done twice, both under its correlation id. The
marker says that the task has been completed and with what result; it alone decides whether an
event has been handled. The lock says that an attempt is under way; it is taken by setting it where
there is none, and it expires soon, so that a holder that went away blocks the task for a while
only.

Every call of the store has a limit. When the store does not answer, a task counts as not completed
and its lock as taken: work may then be done twice, but none is lost.
-/
namespace ReplyPipeline

/-- Where the entries are kept, for how long, and how long the store may take. -/
structure Idempotency where
  keyStart : String := "parley:"
  markerTtl : Span := Span.seconds 3600
  lockTtl : Span := Span.seconds 300
  limit : Span := Span.seconds 2
  deriving DecidableEq, Repr

/-- What came of trying to take a lock. -/
inductive LockAttempt where
  | acquired
  | alreadyHeld
  /-- The store did not answer. -/
  | unverified
  deriving DecidableEq, Repr

/-- The task may go on. -/
def LockAttempt.mayProceed : LockAttempt → Bool
  | .alreadyHeld => false
  | _ => true

/-- What came of it, by the answer of the store to setting the lock where there is none. -/
def LockAttempt.ofAnswer : Except Store.Error Bool → LockAttempt
  | .ok true => .acquired
  | .ok false => .alreadyHeld
  | .error _ => .unverified

namespace Idempotency

def lockValue : String := "processing"

def markerKey (s : Idempotency) (id : CorrelationId) : String :=
  s.keyStart ++ "processed:" ++ id.text

def lockKey (s : Idempotency) (id : CorrelationId) : String :=
  s.keyStart ++ "processed:lock:" ++ id.text

/-- A call of the store within the limit. -/
def call (s : Idempotency) (c : Store.Call) : Action (Except Store.Error c.Answer) :=
  Action.store c (some s.limit)

/-- Whether the task has been completed, as far as the store answers. -/
def isProcessed (s : Idempotency) (id : CorrelationId) : Action Bool := do
  match ← s.call (.contains (s.markerKey id)) with
  | .ok found => return found
  | .error _ => return false

/-- Sets the marker, with a result. -/
def markProcessed (s : Idempotency) (id : CorrelationId) (result : String) :
    Action (Except Store.Error Unit) :=
  s.call (.set (s.markerKey id) result s.markerTtl)

def status (s : Idempotency) (id : CorrelationId) :
    Action (Except Store.Error (Option String)) :=
  s.call (.get (s.markerKey id))

def tryLock (s : Idempotency) (id : CorrelationId) : Action LockAttempt := do
  return .ofAnswer (← s.call (.setIfAbsent (s.lockKey id) lockValue s.lockTtl))

def releaseLock (s : Idempotency) (id : CorrelationId) : Action (Except Store.Error Unit) :=
  s.call (.delete (s.lockKey id))

def isHealthy (s : Idempotency) : Action Bool := do
  match ← s.call .ping with
  | .ok () => return true
  | .error _ => return false

end Idempotency
end ReplyPipeline
