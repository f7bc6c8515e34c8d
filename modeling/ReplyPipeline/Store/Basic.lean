import ReplyPipeline.Time.Span

/-!
# The idempotency store

The store keeps texts under keys for a limited time. This module holds the calls that the pipeline
makes, what each answers, how a call can fail, and a store in memory.
-/
namespace ReplyPipeline

/-- A moment on a clock, in nanoseconds since it was started. -/
abbrev Moment := Nat

namespace Store

/-! ## Calls -/

inductive Error where
  | connection (detail : String)
  | command (detail : String)
  | timeout (limit : Span)
  deriving DecidableEq, Repr

def Error.message : Error → String
  | .connection detail => "store connection error: " ++ detail
  | .command detail => "store command error: " ++ detail
  | .timeout limit => "store operation timed out after " ++ limit.text

inductive Call where
  /-- Puts a value under a key where there is none; answers whether it did. -/
  | setIfAbsent (key value : String) (ttl : Span)
  /-- Puts a value under a key. -/
  | set (key value : String) (ttl : Span)
  /-- Answers whether there is a value under a key. -/
  | contains (key : String)
  /-- Answers the value under a key. -/
  | get (key : String)
  /-- Removes the value under a key, if there is one. -/
  | delete (key : String)
  /-- Answers if the store can be reached. -/
  | ping
  deriving DecidableEq, Repr

def Call.Answer : Call → Type
  | .setIfAbsent .. => Bool
  | .set .. => Unit
  | .contains _ => Bool
  | .get _ => Option String
  | .delete _ => Unit
  | .ping => Unit

/-!
## A store in memory

Entries carry the moment at which they expire: from then on they are as good as gone. Every call
but a ping first removes the entries that have expired.

Moments have no end here. A machine's clock ends after 2 ^ 63 seconds, and a call that gives an
entry until later than that is not described: the machine does not answer it.
-/

/-- A value and the moment at which it expires. -/
structure Entry where
  value : String
  expiresAt : Moment
  deriving DecidableEq, Repr

/-- The entries of a store, no two of them under one key. -/
structure Memory where
  entries : List (String × Entry) := []
  deriving DecidableEq, Repr

namespace Memory

/-- The store without the entries that have expired. -/
def purge (m : Memory) (now : Moment) : Memory :=
  ⟨m.entries.filter fun (_, e) => now < e.expiresAt⟩

def find? (m : Memory) (key : String) : Option Entry := m.entries.lookup key

def erase (m : Memory) (key : String) : Memory := ⟨m.entries.filter fun (k, _) => k != key⟩

def insert (m : Memory) (key : String) (e : Entry) : Memory :=
  ⟨(key, e) :: (m.erase key).entries⟩

/-- The value under a key, unless it has expired. -/
def peek (m : Memory) (now : Moment) (key : String) : Option String :=
  ((m.purge now).find? key).map Entry.value

/-- The keys and values that have not expired. -/
def live (m : Memory) (now : Moment) : List (String × String) :=
  (m.purge now).entries.map fun (k, e) => (k, e.value)

/-- The answer to a call at a moment, and the store after it. -/
def perform (m : Memory) (now : Moment) : (c : Call) → c.Answer × Memory
  | .setIfAbsent key value ttl =>
    let m := m.purge now
    if (m.find? key).isSome then (false, m)
    else (true, m.insert key ⟨value, now + ttl.nanos⟩)
  | .set key value ttl => ((), (m.purge now).insert key ⟨value, now + ttl.nanos⟩)
  | .contains key => (((m.purge now).find? key).isSome, m.purge now)
  | .get key => (((m.purge now).find? key).map Entry.value, m.purge now)
  | .delete key => ((), (m.purge now).erase key)
  | .ping => ((), m)

end Memory
end Store
end ReplyPipeline
