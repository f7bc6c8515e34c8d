import ReplyPipeline.Broker.Basic
import ReplyPipeline.Store.Basic
import ReplyPipeline.Time.Span

/-!
# What the pipeline asks of its surroundings

The gateway and the workers are programs that make requests. This module holds programs in general,
the outcomes of processing and replying, and the requests of the pipeline.
-/
namespace ReplyPipeline

/-!
## Programs

The gateway, the worker and the broker client act on their surroundings only by requests, and go
on with the answers. A program is that behaviour as a tree: it is done, or it makes a request and
has a continuation for every answer. A signature says which requests there are and what is
answered. What the surroundings are, and what happens between a request and its answer, is left to
whoever runs the program.
-/

/-- The requests that programs may make, and the answers to each. -/
structure Signature where
  Request : Type
  Answer : Request → Type

/-- A finite program over a signature. -/
inductive Program (S : Signature) (α : Type) where
  | done (a : α)
  | call (r : S.Request) (next : S.Answer r → Program S α)

namespace Program

variable {S : Signature} {α β : Type}

def bind : Program S α → (α → Program S β) → Program S β
  | .done a, f => f a
  | .call r next, f => .call r fun a => (next a).bind f

instance : Monad (Program S) where
  pure := .done
  bind := bind

def ask (r : S.Request) : Program S (S.Answer r) := .call r .done

@[simp] theorem pure_eq (a : α) : (pure a : Program S α) = .done a := rfl

@[simp] theorem bind_eq (p : Program S α) (f : α → Program S β) : (p >>= f) = p.bind f := rfl

@[simp] theorem done_bind (a : α) (f : α → Program S β) : (Program.done a).bind f = f a := rfl

@[simp] theorem call_bind (r : S.Request) (next : S.Answer r → Program S α)
    (f : α → Program S β) : (Program.call r next).bind f = .call r fun a => (next a).bind f := rfl

@[simp] theorem bind_done (p : Program S α) : p.bind .done = p := by
  induction p with
  | done => rfl
  | call r next ih => simp only [call_bind, ih]

end Program

/-!
## Processing and replying

The processing function makes the text of a reply from a task; the reply sink posts it. Both can
fail, and the processing function may also take too long or panic.
-/

inductive ProcessingError where
  | failed (detail : String)
  /-- The service that was asked did not give a reply. -/
  | serviceFailed (detail : String)
  | emptyReply
  | timeout (limit : Span)
  | panicked (detail : String)
  deriving DecidableEq, Repr

def ProcessingError.message : ProcessingError → String
  | .failed detail => "processing failed: " ++ detail
  | .serviceFailed detail => "upstream request failed: " ++ detail
  | .emptyReply => "processing produced an empty reply"
  | .timeout limit => "processing timed out after " ++ limit.text
  | .panicked detail => "processing panicked: " ++ detail

inductive ReplyError where
  | request (detail : String)
  | status (code : Nat) (body : String)
  | unavailable (detail : String)
  deriving DecidableEq, Repr

def ReplyError.message : ReplyError → String
  | .request detail => "reply request failed: " ++ detail
  | .status code body => "reply rejected with status " ++ Decimal.showNat code ++ ": " ++ body
  | .unavailable detail => "reply sink unavailable: " ++ detail

/-- What a panic carries: a text, or something that is no text. -/
inductive Panic where
  | text (s : String)
  | other
  deriving DecidableEq, Repr

def Panic.message : Panic → String
  | .text s => s
  | .other => "unknown panic"

/-- How a call of the processing function ends. -/
inductive ProcessingOutcome where
  | reply (text : String)
  | failed (cause : ProcessingError)
  | panicked (p : Panic)
  /-- It was cut off. -/
  | tooLate
  deriving DecidableEq, Repr

/-!
## Requests

The gateway and the workers see the store, the broker, the processing function, the reply sink and
the clock through these requests. A request that may take time can carry a limit or a deadline; it
is then answered by a failure or cut off when the time is up, and what it was about to do does not
happen.
-/

inductive Counter where
  | processed
  | succeeded
  | retried
  | deadLettered
  | malformed
  deriving DecidableEq, Repr

abbrev StopSignal := Nat

/-- What comes out of a consumer's stream. -/
inductive Arrival where
  | delivery (d : Broker.Delivery)
  | failed (e : Broker.Error)
  | ended
  /-- The stop signal was given first. -/
  | stopped
  /-- Nothing came in time. -/
  | tooLate
  deriving DecidableEq, Repr

inductive PipelineRequest where
  /-- The moment on the clock that limits and pauses go by. -/
  | now
  /-- The instant on the wall clock. -/
  | wallClock
  /-- A call of the store, bounded by a limit. -/
  | store (call : Store.Call) (limit : Option Span)
  /-- A declaration of the topology. -/
  | declareTopology (deadline : Option Moment)
  /-- A publication to the work queue. -/
  | publish (e : Envelope) (deadline : Option Moment)
  /-- Whether the broker is well. -/
  | brokerHealthy
  /-- A call of the processing function. -/
  | process (e : Envelope) (limit : Option Span)
  /-- A reply for the sink. -/
  | reply (tenant conversation : Int64) (text : String) (isPrivate : Bool)
  /-- A pause. -/
  | pause (s : Span)
  /-- The settlement of a delivery. -/
  | settle (d : Broker.DeliveryId) (how : Broker.Settlement)
  /-- One more on a counter. -/
  | tally (c : Counter)
  /-- A new consumer of the work queue. -/
  | consume
  /-- The next message for a consumer, unless the stop signal is given or the limit passes. -/
  | next (c : Broker.ConsumerId) (stop : Option StopSignal) (limit : Option Span)
  /-- The end of a delivery, settled or not. -/
  | drop (d : Broker.DeliveryId)
  /-- The end of a consumer. -/
  | leave (c : Broker.ConsumerId)
  /-- Whether a stop signal has been given. -/
  | isStopped (stop : StopSignal)
  /-- A pause that ends early when a stop signal is given; answers whether it was. -/
  | pauseUnlessStopped (s : Span) (stop : StopSignal)

/-- The answers. An enqueueing request that was cut off answers `none`. -/
def PipelineRequest.Answer : PipelineRequest → Type
  | .now => Moment
  | .wallClock => Instant
  | .store call _ => Except Store.Error call.Answer
  | .declareTopology _ => Option (Except Broker.Error Unit)
  | .publish _ _ => Option (Except Broker.Error Unit)
  | .brokerHealthy => Bool
  | .process _ _ => ProcessingOutcome
  | .reply .. => Except ReplyError Unit
  | .pause _ => Unit
  | .settle _ _ => Except Broker.Error Unit
  | .tally _ => Unit
  | .consume => Except Broker.Error Broker.ConsumerId
  | .next .. => Arrival
  | .drop _ => Unit
  | .leave _ => Unit
  | .isStopped _ => Bool
  | .pauseUnlessStopped _ _ => Bool

def pipeline : Signature := ⟨PipelineRequest, PipelineRequest.Answer⟩

abbrev Action (α : Type) := Program pipeline α

namespace Action

def now : Action Moment := Program.ask (S := pipeline) .now

def wallClock : Action Instant := Program.ask (S := pipeline) .wallClock

def store (call : Store.Call) (limit : Option Span) : Action (Except Store.Error call.Answer) :=
  Program.ask (S := pipeline) (.store call limit)

def declareTopology (deadline : Option Moment) : Action (Option (Except Broker.Error Unit)) :=
  Program.ask (S := pipeline) (.declareTopology deadline)

def publish (e : Envelope) (deadline : Option Moment) :
    Action (Option (Except Broker.Error Unit)) :=
  Program.ask (S := pipeline) (.publish e deadline)

def brokerHealthy : Action Bool := Program.ask (S := pipeline) .brokerHealthy

def process (e : Envelope) (limit : Option Span) : Action ProcessingOutcome :=
  Program.ask (S := pipeline) (.process e limit)

def reply (tenant conversation : Int64) (text : String) (isPrivate : Bool) :
    Action (Except ReplyError Unit) :=
  Program.ask (S := pipeline) (.reply tenant conversation text isPrivate)

def pause (s : Span) : Action Unit := Program.ask (S := pipeline) (.pause s)

def settle (d : Broker.DeliveryId) (how : Broker.Settlement) : Action (Except Broker.Error Unit) :=
  Program.ask (S := pipeline) (.settle d how)

def tally (c : Counter) : Action Unit := Program.ask (S := pipeline) (.tally c)

def consume : Action (Except Broker.Error Broker.ConsumerId) := Program.ask (S := pipeline) .consume

def next (c : Broker.ConsumerId) (stop : Option StopSignal) (limit : Option Span) :
    Action Arrival :=
  Program.ask (S := pipeline) (.next c stop limit)

def drop (d : Broker.DeliveryId) : Action Unit := Program.ask (S := pipeline) (.drop d)

def leave (c : Broker.ConsumerId) : Action Unit := Program.ask (S := pipeline) (.leave c)

def isStopped (stop : StopSignal) : Action Bool := Program.ask (S := pipeline) (.isStopped stop)

def pauseUnlessStopped (s : Span) (stop : StopSignal) : Action Bool :=
  Program.ask (S := pipeline) (.pauseUnlessStopped s stop)

end Action
end ReplyPipeline
