import ReplyPipeline.Proofs.HandlingConduct
import ReplyPipeline.Proofs.IntakeConduct
import ReplyPipeline.Proofs.Surroundings

/-!
# Traffic

Any number of events are being taken in and any number of deliveries are being handled at the same
time, in one world. A step is a request being made, an answer to one, an arrival, a worker taking a
message, a crash, a change in the surroundings, or somebody else writing to the store. Steps come in
any order, so that between two requests of a program everything else may go on. Crashes cut a
program off between two steps; its delivery goes away then.

The ledger stands beside the queues and says of each message which event it goes back to. It is
written along and never read by a step.
-/
namespace ReplyPipeline

/-- A program under way. -/
structure Thread (α : Type) where
  rest : Action α
  past : History := []
  /-- The world in which the request was made that it waits on. -/
  asked : Option World := none
  /-- It has not been cut off. -/
  alive : Bool := true

/-- What a step is. -/
inductive Happening where
  | arrived (event : Event)
  | taken
  | asked (r : PipelineRequest)
  | answered (x : Exchange)
  | crashed
  | drifted
  /-- Somebody else wrote to the store. -/
  | intruded

namespace Thread

variable {α : Type}

/-- A program makes a request, or it is answered and goes on. -/
inductive Step : Thread α → World → Happening → Thread α → World → Prop
  | ask {r : PipelineRequest} {next : r.Answer → Action α} {past : History} {w : World} :
      Step ⟨.call r next, past, none, true⟩ w (.asked r)
        ⟨.call r next, past, some w, true⟩ (w.begin r).1
  | answer {r : PipelineRequest} {next : r.Answer → Action α} {past : History} {w₀ w w' : World}
      {a : r.Answer} : (w₀.begin r).2.poll w = some (a, w') →
      Step ⟨.call r next, past, some w₀, true⟩ w (.answered ⟨r, a⟩)
        ⟨next a, ⟨r, a⟩ :: past, none, true⟩ w'

/-- What the program has come to, if it is done. -/
def result? (t : Thread α) : Option α :=
  match t.rest with
  | .done a => some a
  | .call .. => none

theorem rest_eq_of_result? {t : Thread α} {a : α} (h : t.result? = some a) : t.rest = .done a := by
  unfold result? at h
  split at h
  next heq => rw [heq, Option.some.inj h]
  next => cases h

end Thread

/-- An event that is being taken in or has been. -/
structure Intake where
  event : Event
  thread : Thread GatewayAnswer

/-- A delivery that is being handled or has been. -/
structure Handling where
  delivery : Broker.Delivery
  /-- The intake that the delivery goes back to, by its place. -/
  origin : Option Nat
  /-- The world in which its handling began. -/
  start : World
  thread : Thread DeliveryOutcome

/-- The intakes that the messages in the two queues go back to, by their places. -/
structure Ledger where
  ready : List (Option Nat) := []
  dead : List (Option Nat) := []
  deriving DecidableEq, Repr

namespace Ledger

/-- The ledger after a delivery that goes back to `origin` went away. -/
def drop (l : Ledger) (origin : Option Nat) (b : Broker.Memory) (d : Broker.DeliveryId) : Ledger :=
  if (b.held.lookup d).any (!·.settled) then { l with ready := origin :: l.ready } else l

/-- The ledger after a step of a program that works on what goes back to `origin`. -/
def after (l : Ledger) (origin : Option Nat) (b : Broker.Memory) : Happening → Ledger
  | .answered ⟨.publish .., some (.ok ())⟩ => { l with ready := l.ready ++ [origin] }
  | .answered ⟨.settle _ .reject, .ok ()⟩ => { l with dead := l.dead ++ [origin] }
  | .answered ⟨.drop d, _⟩ => l.drop origin b d
  | _ => l

theorem after_publish_of_ne (l : Ledger) (origin : Option Nat) (b : Broker.Memory) {e : Envelope}
    {deadline : Option Moment} {a : Option (Except Broker.Error Unit)}
    (failed : a ≠ some (.ok ())) :
    l.after origin b (.answered ⟨.publish e deadline, a⟩) = l := by
  cases a with
  | none => rfl
  | some outcome =>
    cases outcome with
    | error _ => rfl
    | ok done => exact absurd rfl failed

end Ledger

/-- A world and all that is under way in it. -/
structure Traffic where
  world : World
  intakes : List Intake := []
  handlings : List Handling := []
  ledger : Ledger := {}

namespace Traffic

inductive Step (g : Gateway) (x : TaskHandler) : Traffic → Happening → Traffic → Prop
  | arrive (s : Traffic) (event : Event) :
      Step g x s (.arrived event)
        { s with intakes := s.intakes ++ [⟨event, { rest := g.handle event }⟩] }
  | take {s : Traffic} {consumer : Option Broker.ConsumerId} {d : Broker.Delivery}
      {b : Broker.Memory} : s.world.broker.take consumer = some (d, b) →
      Step g x s .taken
        { s with
          world := { s.world with broker := b }
          handlings := s.handlings ++
            [⟨d, s.ledger.ready.head?.join, s.world, { rest := x.serve d }⟩]
          ledger := { s.ledger with ready := s.ledger.ready.tail } }
  | intake {s : Traffic} {as bs : List Intake} {i : Intake} {t : Thread GatewayAnswer}
      {w : World} {what : Happening} : s.intakes = as ++ i :: bs →
      i.thread.Step s.world what t w →
      Step g x s what
        { s with
          world := w
          intakes := as ++ { i with thread := t } :: bs
          ledger := s.ledger.after (some as.length) s.world.broker what }
  | handling {s : Traffic} {as bs : List Handling} {h : Handling} {t : Thread DeliveryOutcome}
      {w : World} {what : Happening} : s.handlings = as ++ h :: bs →
      h.thread.Step s.world what t w →
      Step g x s what
        { s with
          world := w
          handlings := as ++ { h with thread := t } :: bs
          ledger := s.ledger.after h.origin s.world.broker what }
  | crashIntake {s : Traffic} {as bs : List Intake} {i : Intake} : s.intakes = as ++ i :: bs →
      Step g x s .crashed
        { s with intakes := as ++ { i with thread := { i.thread with alive := false } } :: bs }
  | crashHandling {s : Traffic} {as bs : List Handling} {h : Handling} :
      s.handlings = as ++ h :: bs → h.thread.alive = true →
      Step g x s .crashed
        { s with
          world := { s.world with broker := s.world.broker.drop h.delivery.id }
          handlings := as ++ { h with thread := { h.thread with alive := false } } :: bs
          ledger := s.ledger.drop h.origin s.world.broker h.delivery.id }
  | drift {s : Traffic} {w : World} : s.world.Drifts w → Step g x s .drifted { s with world := w }
  | intrude (s : Traffic) (store : Store.Memory) :
      Step g x s .intruded { s with world := { s.world with store } }

/-- The traffic after a call was begun for the first message. -/
def taking (x : TaskHandler) (s : Traffic) (d : Broker.Delivery) (b : Broker.Memory) : Traffic :=
  { s with
    world := { s.world with broker := b }
    handlings := s.handlings ++ [⟨d, s.ledger.ready.head?.join, s.world, { rest := x.serve d }⟩]
    ledger := { s.ledger with ready := s.ledger.ready.tail } }

/-- What can come of a start by steps of a permitted kind. -/
inductive Reaches (g : Gateway) (x : TaskHandler) (permits : Happening → Bool) (start : Traffic) :
    Traffic → Prop
  | refl : Reaches g x permits start start
  | step {s s' : Traffic} {what : Happening} : Reaches g x permits start s → permits what →
      Step g x s what s' → Reaches g x permits start s'

end Traffic
end ReplyPipeline
