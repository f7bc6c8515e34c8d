import ReplyPipeline.Broker.Basic

/-!
# A broker in memory

Messages are handed out in the order in which they came. A message that comes back unsettled goes
to the front of the queue, marked as redelivered. A consumer has a window of one: it is busy from
the moment it is handed a message until a delivery of its own is settled or goes away, and a busy
consumer is handed nothing.
-/
namespace ReplyPipeline.Broker

/-- A delivery that has not gone away. -/
structure Held where
  message : Message
  /-- The consumer that was handed the message, if it was handed to one. -/
  consumer : Option ConsumerId
  settled : Bool
  deriving DecidableEq, Repr

/-- The queues, the counters, and who holds what. -/
structure Memory where
  ready : List Message := []
  deadLetters : List Message := []
  published : Nat := 0
  acked : Nat := 0
  inFlight : Nat := 0
  declarations : Nat := 0
  closed : Bool := false
  held : List (DeliveryId × Held) := []
  nextDelivery : DeliveryId := 0
  /-- The consumers, and whether each is busy. -/
  consumers : List (ConsumerId × Bool) := []
  nextConsumer : ConsumerId := 0
  deriving Repr

namespace Memory

def declare (b : Memory) : Memory := { b with declarations := b.declarations + 1 }

/-- The broker with a message at the end of its queue. -/
def push (b : Memory) (m : Message) : Memory :=
  { b with published := b.published + 1, ready := b.ready ++ [m] }

def isBusy (b : Memory) (c : ConsumerId) : Bool := (b.consumers.lookup c).getD false

def setBusy (b : Memory) (c : ConsumerId) (busy : Bool) : Memory :=
  { b with consumers := b.consumers.map fun (d, x) => if d = c then (d, busy) else (d, x) }

/-- The first message of the queue, handed out. -/
def take (b : Memory) (consumer : Option ConsumerId) : Option (Delivery × Memory) :=
  match b.ready with
  | [] => none
  | m :: rest =>
    let b := { b with
      ready := rest
      inFlight := b.inFlight + 1
      held := (b.nextDelivery, ⟨m, consumer, false⟩) :: b.held
      nextDelivery := b.nextDelivery + 1 }
    let delivery : Delivery := ⟨b.nextDelivery - 1, m⟩
    match consumer with
    | some c => some (delivery, b.setBusy c true)
    | none => some (delivery, b)

def consume (b : Memory) : ConsumerId × Memory :=
  (b.nextConsumer, { b with
    consumers := (b.nextConsumer, false) :: b.consumers
    nextConsumer := b.nextConsumer + 1 })

def leave (b : Memory) (c : ConsumerId) : Memory :=
  { b with consumers := b.consumers.filter fun (d, _) => d != c }

/-- What a consumer gets: a message, the end of the stream once the broker is closed and its queue
empty, or nothing yet. -/
inductive Arrival where
  | delivery (d : Delivery) (b : Memory)
  | ended
  | nothingYet

def next (b : Memory) (c : ConsumerId) : Arrival :=
  if b.isBusy c then .nothingYet
  else
    match b.take (some c) with
    | some (d, b) => .delivery d b
    | none => if b.closed then .ended else .nothingYet

/-- The broker with the window of a delivery's consumer cleared. -/
def freeWindow (b : Memory) (h : Held) : Memory :=
  match h.consumer with
  | some c => b.setBusy c false
  | none => b

def markSettled (b : Memory) (id : DeliveryId) : Memory :=
  { b with
    held := b.held.map fun (d, h) => if d = id then (d, { h with settled := true }) else (d, h) }

/-- Settles a delivery; a second time is an error and changes nothing. -/
def settle (b : Memory) (id : DeliveryId) (how : Settlement) : Except Error Unit × Memory :=
  match b.held.lookup id with
  | none => (.error (.settle "delivery already settled"), b)
  | some h =>
    if h.settled then (.error (.settle "delivery already settled"), b)
    else
      let b := { b.markSettled id with inFlight := b.inFlight - 1 }
      let b :=
        match how with
        | .ack => { b with acked := b.acked + 1 }
        | .reject => { b with deadLetters := b.deadLetters ++ [h.message] }
      (.ok (), b.freeWindow h)

/-- The broker after a delivery went away: if it was not settled, its message is the first of the
queue again. -/
def drop (b : Memory) (id : DeliveryId) : Memory :=
  match b.held.lookup id with
  | none => b
  | some h =>
    let b := { b with held := b.held.filter fun (d, _) => d != id }
    if h.settled then b
    else
      { b with
        inFlight := b.inFlight - 1
        ready := { h.message with redelivered := true } :: b.ready }.freeWindow h

def close (b : Memory) : Memory := { b with closed := true }

end Memory
end ReplyPipeline.Broker
