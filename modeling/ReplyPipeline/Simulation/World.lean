import ReplyPipeline.Broker.Memory
import ReplyPipeline.Pipeline.Worker

/-!
# A world in memory

The surroundings of the pipeline as one value: a clock, a store and a broker in memory, a
processing function that follows a script, a reply sink that remembers, and the counters of the
workers. Faults can be put into it, and the store and the broker can be made slow or made to fail.

`World.begin` says what becomes of a request: it is answered when `Wait.poll` gives an answer, and
`Wait.alarm` is the moment at which the clock alone will make it do so. What a request does it does
when it is answered; if it is cut off before, it does nothing.
-/
namespace ReplyPipeline

/-- The places where a fault can be put. -/
inductive FaultPoint where
  | topology
  | publish
  | consume
  /-- The next message of a consumer is an error. -/
  | stream
  /-- The stream of a consumer ends. -/
  | streamEnd
  | ack
  | reject
  deriving DecidableEq, Repr

/-- What the processing function does on one call. -/
structure Turn where
  /-- How long it takes. -/
  wait : Option Span := none
  /-- How it ends, given the content of the task. -/
  finish : String → ProcessingOutcome

structure PostedReply where
  tenant : Int64
  conversation : Int64
  text : String
  isPrivate : Bool
  deriving DecidableEq, Repr

structure WorkerCounts where
  processed : Nat := 0
  succeeded : Nat := 0
  retried : Nat := 0
  deadLettered : Nat := 0
  malformed : Nat := 0
  deriving DecidableEq, Repr

namespace WorkerCounts

/-- The counters with one more on one of them. -/
def add (s : WorkerCounts) : Counter → WorkerCounts
  | .processed => { s with processed := s.processed + 1 }
  | .succeeded => { s with succeeded := s.succeeded + 1 }
  | .retried => { s with retried := s.retried + 1 }
  | .deadLettered => { s with deadLettered := s.deadLettered + 1 }
  | .malformed => { s with malformed := s.malformed + 1 }

end WorkerCounts

/-- The surroundings of the pipeline. -/
structure World where
  now : Moment := 0
  wallClock : Instant
  store : Store.Memory := {}
  storeFailing : Bool := false
  /-- How long a call of the store takes. -/
  storeLatency : Span := Span.zero
  broker : Broker.Memory := {}
  publishFailing : Bool := false
  /-- How long a publication takes. -/
  publishLatency : Span := Span.zero
  brokerHealthy : Bool := true
  /-- How many of the next uses of each place fail. -/
  faults : List (FaultPoint × Nat) := []
  /-- What the processing function will do; after that it replies `ok`. -/
  script : List Turn := []
  /-- The counts of failed attempts of the tasks that were processed. -/
  calls : List UInt32 := []
  sent : List PostedReply := []
  /-- How many of the next replies the sink refuses. -/
  sinkFailures : Nat := 0
  stats : WorkerCounts := {}
  /-- The stop signals that have been given. -/
  stopped : List StopSignal := []

/-- A request that has been made. -/
structure Wait (α : Type) where
  /-- The answer, and the world after it, once there is one. -/
  poll : World → Option (α × World)
  /-- The moment at which there will be one at the latest. -/
  alarm : Option Moment

namespace Wait

variable {α : Type}

def atOnce (answer : World → α × World) : Wait α := ⟨fun w => some (answer w), none⟩

def till (m : Moment) (answer : World → α × World) : Wait α :=
  ⟨fun w => if m ≤ w.now then some (answer w) else none, some m⟩

end Wait

namespace World

/-- How long a limit or a pause lasts: as long as it says, unless its seconds do not fit into 63
bits. Then it lasts thirty years. -/
def duration (s : Span) : Nat :=
  if s.wholeSeconds < 2 ^ 63 then s.nanos else 946080000 * 10 ^ 9

/-- The moment at which a limit that is set now passes. -/
def deadline (w : World) (limit : Option Span) : Option Moment :=
  limit.map fun s => w.now + duration s

/-- Takes some time and is then answered; or is cut off, if the deadline comes first. -/
def taking {α : Type} (w : World) (time : Nat) (deadline : Option Moment)
    (answer late : World → α × World) : Wait α :=
  if time = 0 then .atOnce answer
  else
    match deadline with
    | none => .till (w.now + time) answer
    | some d => if w.now + time ≤ d then .till (w.now + time) answer else .till d late

/-- The world with faults at the next uses of a place. -/
def putFault (w : World) (p : FaultPoint) (uses : Nat) : World :=
  { w with faults := (p, uses) :: w.faults.filter fun (q, _) => q != p }

/-- Uses a place; answers whether a fault was there. -/
def useFault (w : World) (p : FaultPoint) : Bool × World :=
  match w.faults.lookup p with
  | some (uses + 1) => (true, w.putFault p uses)
  | _ => (false, w)

def callStore (w : World) (c : Store.Call) (limit : Option Span) :
    Wait (Except Store.Error c.Answer) :=
  w.taking (duration w.storeLatency) (w.deadline limit)
    (fun w =>
      if w.storeFailing then (.error (.connection "in-memory store unavailable"), w)
      else
        let (a, store) := w.store.perform w.now c
        (.ok a, { w with store }))
    (fun w => (.error (.timeout (limit.getD Span.longest)), w))

def declareTopology (w : World) : Except Broker.Error Unit × World :=
  match w.useFault .topology with
  | (true, w) => (.error (.topology "injected"), w)
  | (false, w) => (.ok (), { w with broker := w.broker.declare })

/-- The end of a publication. -/
def deliver (e : Envelope) (w : World) : Except Broker.Error Unit × World :=
  if w.publishFailing then (.error (.connection "in-memory broker unavailable"), w)
  else (.ok (), { w with broker := w.broker.push (.ofEnvelope e) })

def publish (w : World) (e : Envelope) (deadline : Option Moment) :
    World × Wait (Option (Except Broker.Error Unit)) :=
  match w.useFault .publish with
  | (true, w) => (w, .atOnce fun w => (some (.error .nacked), w))
  | (false, w) =>
    (w, w.taking (duration w.publishLatency) deadline
      (fun w =>
        let (outcome, w) := deliver e w
        (some outcome, w))
      (fun w => (none, w)))

def process (w : World) (e : Envelope) (limit : Option Span) : World × Wait ProcessingOutcome :=
  let turn : Turn := w.script.head?.getD { finish := fun _ => .reply "ok" }
  let w := { w with script := w.script.drop 1, calls := w.calls ++ [e.attempts] }
  (w, w.taking ((turn.wait.map duration).getD 0) (w.deadline limit)
    (fun w => (turn.finish e.content, w)) (fun w => (.tooLate, w)))

def post (w : World) (r : PostedReply) : Except ReplyError Unit × World :=
  if w.sinkFailures = 0 then (.ok (), { w with sent := w.sent ++ [r] })
  else (.error (.unavailable "injected failure"), { w with sinkFailures := w.sinkFailures - 1 })

def settle (w : World) (d : Broker.DeliveryId) (how : Broker.Settlement) :
    Except Broker.Error Unit × World :=
  let point : FaultPoint := match how with
    | .ack => .ack
    | .reject => .reject
  match w.useFault point with
  | (true, w) => (.error (.settle "injected"), w)
  | (false, w) =>
    let (outcome, broker) := w.broker.settle d how
    (outcome, { w with broker })

def consume (w : World) : Except Broker.Error Broker.ConsumerId × World :=
  match w.useFault .consume with
  | (true, w) => (.error (.consume "injected"), w)
  | (false, w) =>
    let (c, broker) := w.broker.consume
    (.ok c, { w with broker })

/-- What a consumer gets from the broker now. -/
def arrival? (c : Broker.ConsumerId) (w : World) : Option (Arrival × World) :=
  match w.broker.next c with
  | .delivery d broker => some (.delivery d, { w with broker })
  | .ended => some (.ended, w)
  | .nothingYet => none

def isStopped (w : World) (s : StopSignal) : Bool := w.stopped.contains s

def next (w : World) (c : Broker.ConsumerId) (stop : Option StopSignal) (limit : Option Span) :
    World × Wait Arrival :=
  if stop.any w.isStopped then (w, .atOnce fun w => (.stopped, w))
  else
    match w.useFault .stream with
    | (true, w) => (w, .atOnce fun w => (.failed (.consume "injected"), w))
    | (false, w) =>
      match w.useFault .streamEnd with
      | (true, w) => (w, .atOnce fun w => (.ended, w))
      | (false, w) =>
        let deadline := w.deadline limit
        (w, {
          poll := fun w =>
            if stop.any w.isStopped then some (.stopped, w)
            else
              (arrival? c w).or
                (if deadline.any (· ≤ w.now) then some (.tooLate, w) else none)
          alarm := deadline })

def pauseUnlessStopped (w : World) (s : Span) (stop : StopSignal) : Wait Bool :=
  let finish := w.now + duration s
  { poll := fun w =>
      if w.isStopped stop then some (true, w)
      else if finish ≤ w.now then some (false, w)
      else none
    alarm := some finish }

/-- What becomes of a request. -/
def begin (w : World) : (r : PipelineRequest) → World × Wait r.Answer
  | .now => (w, .atOnce fun w => (w.now, w))
  | .wallClock => (w, .atOnce fun w => (w.wallClock, w))
  | .store c limit => (w, w.callStore c limit)
  | .declareTopology _ => (w, .atOnce fun w =>
      let (outcome, w) := w.declareTopology
      (some outcome, w))
  | .publish e deadline => w.publish e deadline
  | .brokerHealthy => (w, .atOnce fun w => (w.brokerHealthy, w))
  | .process e limit => w.process e limit
  | .reply tenant conversation text isPrivate =>
    (w, .atOnce fun w => w.post ⟨tenant, conversation, text, isPrivate⟩)
  | .pause s => (w, w.taking (duration s) none (fun w => ((), w)) fun w => ((), w))
  | .settle d how => (w, .atOnce fun w => w.settle d how)
  | .tally c => (w, .atOnce fun w => ((), { w with stats := w.stats.add c }))
  | .consume => (w, .atOnce World.consume)
  | .next c stop limit => w.next c stop limit
  | .drop d => (w, .atOnce fun w => ((), { w with broker := w.broker.drop d }))
  | .leave c => (w, .atOnce fun w => ((), { w with broker := w.broker.leave c }))
  | .isStopped s => (w, .atOnce fun w => (w.isStopped s, w))
  | .pauseUnlessStopped s stop => (w, w.pauseUnlessStopped s stop)

end World
end ReplyPipeline
