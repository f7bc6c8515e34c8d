import ReplyPipeline.Simulation.Scheduler

/-!
# Sessions with a simulation

A session is a simulation in the hands of somebody who keeps deliveries and consumers under names
of his own and has at most one worker at hand. A name that is given anew loses what it stood for:
a delivery goes away, and if it was not settled its message is back in the queue.
-/
namespace ReplyPipeline

/-- A simulation and what is at hand in it. -/
structure Session where
  simulation : Simulation
  /-- The settings of the workers. -/
  settings : Worker := {}
  deliveries : List (String × Broker.Delivery) := []
  consumers : List (String × Broker.ConsumerId) := []
  /-- The stop signal of the worker at hand. -/
  worker : Option StopSignal := none
  nextSignal : StopSignal := 0

namespace Session

def world (s : Session) : World := s.simulation.world

def modify (s : Session) (f : World → World) : Session :=
  { s with simulation := { s.simulation with world := f s.world } }

def perform {α : Type} (s : Session) (program : Action α) : Option α × Session :=
  let (result, simulation) := s.simulation.run program
  (result, { s with simulation })

def performAll {α : Type} (s : Session) (programs : List (Action α)) : List α × Session :=
  let (results, simulation) := s.simulation.runAll programs
  (results, { s with simulation })

/-- The session after a delivery went away. -/
def letGo (s : Session) (d : Broker.Delivery) : Session :=
  s.modify fun w => { w with broker := w.broker.drop d.id }

def keep (s : Session) (name : String) (d : Broker.Delivery) : Session :=
  let previous := s.deliveries.lookup name
  let s := { s with
    deliveries := (name, d) :: s.deliveries.filter fun (n, _) => n != name }
  match previous with
  | some p => s.letGo p
  | none => s

/-- The session without the delivery under a name, and whether there was one. -/
def discard (s : Session) (name : String) : Bool × Session :=
  match s.deliveries.lookup name with
  | some d =>
    (true, { s with deliveries := s.deliveries.filter fun (n, _) => n != name }.letGo d)
  | none => (false, s)

/-- Takes the next message, if there is one, without a consumer. -/
def take (s : Session) : Option Broker.Delivery × Session :=
  match s.world.broker.take none with
  | some (d, broker) => (some d, s.modify fun w => { w with broker })
  | none => (none, s)

/-- Takes the next message, if there is one, and keeps it under a name. -/
def takeAs (s : Session) (name : String) : Option Broker.Delivery × Session :=
  match s.take with
  | (some d, s) => (some d, s.keep name d)
  | (none, s) => (none, s)

def consume (s : Session) (name : String) : Option (Except Broker.Error Unit) × Session :=
  match s.perform Action.consume with
  | (some (.ok c), s) =>
    let previous := s.consumers.lookup name
    let s := { s with consumers := (name, c) :: s.consumers.filter fun (n, _) => n != name }
    match previous with
    | some p => (some (.ok ()), s.modify fun w => { w with broker := w.broker.leave p })
    | none => (some (.ok ()), s)
  | (some (.error e), s) => (some (.error e), s)
  | (none, s) => (none, s)

/-- The session without the consumer under a name, and whether there was one. -/
def leave (s : Session) (name : String) : Bool × Session :=
  match s.consumers.lookup name with
  | some c =>
    (true, { s with consumers := s.consumers.filter fun (n, _) => n != name }.modify fun w =>
      { w with broker := w.broker.leave c })
  | none => (false, s)

/-- Waits for the next message of a consumer and keeps it under a name. -/
def next (s : Session) (c : Broker.ConsumerId) (name : String) (limit : Span) :
    Option Arrival × Session :=
  match s.perform (Action.next c none (some limit)) with
  | (some (.delivery d), s) => (some (.delivery d), s.keep name d)
  | (arrival, s) => (arrival, s)

/-- Handles the next message, if there is one; it goes away afterwards. -/
def handleNext (s : Session) : Option DeliveryOutcome × Session :=
  match s.take with
  | (none, s) => (none, s)
  | (some d, s) =>
    let (outcome, s) := s.perform (s.settings.handler.handle d)
    (outcome, s.letGo d)

def startWorker (s : Session) : Session :=
  { s with
    simulation := s.simulation.startWorker s.settings s.nextSignal
    worker := some s.nextSignal
    nextSignal := s.nextSignal + 1 }

def cancel (s : Session) (signal : StopSignal) : Session :=
  s.modify fun w => { w with stopped := signal :: w.stopped }

/-- Stops a worker and waits until it has stopped; it is no longer at hand. -/
def stopWorker (s : Session) (signal : StopSignal) : Session :=
  let s := s.cancel signal
  { s with simulation := s.simulation.awaitStopped signal, worker := none }

end Session
end ReplyPipeline
