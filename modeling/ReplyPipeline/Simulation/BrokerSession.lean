import ReplyPipeline.Broker.Publisher
import ReplyPipeline.Simulation.BrokerServer

/-!
# Sessions with a broker on a server

A session is a client of a scripted server in the hands of one caller, who keeps deliveries and
consumers under names. An operation on which the server falls silent is cut off when its time is
up.
-/
namespace ReplyPipeline

/-- A client, its server, and what is at hand. -/
structure BrokerSession where
  broker : Broker.Remote
  server : BrokerServer
  publisher : Broker.Publisher := {}
  consumers : List (String × Broker.ChannelId) := []
  /-- The deliveries, and whether each is settled. -/
  deliveries : List (String × RemoteDelivery × Bool) := []

namespace BrokerSession

/-- How the server answers an operation. One that has no time gets no answer. -/
def answer (s : BrokerSession) : Broker.Answering BrokerServer :=
  if s.broker.limit = Span.zero then fun _ server => (none, server) else BrokerServer.answer

/-- An operation on the channel for publications. -/
def operate (s : BrokerSession) (program : Broker.ClientAction (Except Broker.Error Unit)) :
    Except Broker.Error Unit × BrokerSession :=
  let caller : Broker.Caller := 0
  let (publisher, server) :=
    ({ s.publisher with ended := [] }.enter ⟨caller, program⟩).serve s.answer s.server
  let publisher :=
    if publisher.holder.isSome then publisher.timeOut s.broker.limit caller else publisher
  ((publisher.ended.lookup caller).getD (.ok ()), { s with publisher, server })

/-- Starts a consumer under a name, which is also its tag. The one before it under that name
disconnects. -/
def consume (s : BrokerSession) (name : String) : Except Broker.Error Unit × BrokerSession :=
  match (s.broker.consume name).run s.answer none s.server with
  | (none, _, server) => (.error (.timeout s.broker.limit), { s with server })
  | (some (.error e), _, server) => (.error e, { s with server })
  | (some (.ok c), _, server) =>
    let server := match s.consumers.lookup name with
      | some previous => server.breakOff previous
      | none => server
    let consumers := (name, c) :: s.consumers.filter fun (n, _) => n != name
    (.ok (), { s with server, consumers })

/-- Takes the next message of a consumer and keeps it under a name. -/
def next (s : BrokerSession) (c : Broker.ChannelId) (name : String) :
    RemoteArrival × BrokerSession :=
  let (arrival, server) := s.server.next c
  let s := { s with server }
  match arrival with
  | .delivery d =>
    let deliveries := (name, d, false) :: s.deliveries.filter fun (n, _) => n != name
    (arrival, { s with deliveries })
  | _ => (arrival, s)

/-- Settles the delivery under a name, which can be done once. There is none if nothing has been
kept under the name. -/
def settle (s : BrokerSession) (name : String) (how : Broker.Settlement) :
    Option (Except Broker.Error Unit) × BrokerSession :=
  match s.deliveries.lookup name with
  | none => (none, s)
  | some (_, true) => (some (.error (.settle "delivery already settled")), s)
  | some (d, false) =>
    let deliveries := s.deliveries.map fun (n, kept) => (n, if n = name then (d, true) else kept)
    let (sent, server) := s.server.settle d how
    let outcome := if sent then .ok () else .error (.settle "connection lost")
    (some outcome, { s with server, deliveries })

end BrokerSession
end ReplyPipeline
