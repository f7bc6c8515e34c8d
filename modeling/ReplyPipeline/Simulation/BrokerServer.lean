import ReplyPipeline.Broker.Remote

/-!
# A scripted server of a broker

A server that does as it is told: it follows a plan for each connection, says yes to everything
that the plan does not mention, hands out given messages, and remembers what it saw. A consumer is
handed the first message when it is started and one more after each settlement.
-/
namespace ReplyPipeline

open Broker (ChannelId Confirmation WireRequest)

inductive MethodFault where
  | closesChannel
  | closesConnection
  | hangsUp
  | fallsSilent
  deriving DecidableEq, Repr

/-- What a server makes of a publication. -/
inductive PublicationTurn where
  | ack
  | nack
  | hangsUp
  | fallsSilent
  /-- It confirms the publication and closes the channel. -/
  | ackAndClose
  deriving DecidableEq, Repr

/-- What a server does on one connection. -/
structure ConnectionPlan where
  /-- There is no connection at all. -/
  refuse : Bool := false
  /-- The name of a method that fails, and how. -/
  fault : Option (String × MethodFault) := none
  /-- What it makes of the publications; after that it confirms them. -/
  publications : List PublicationTurn := []
  /-- It hangs up when a message is acknowledged. -/
  hangUpAfterAck : Bool := false
  deriving DecidableEq, Repr

namespace ConnectionPlan

def fault? (p : ConnectionPlan) (m : Broker.Amqp.Method) : Option MethodFault :=
  p.fault.bind fun (name, how) => if name = m.name then some how else none

end ConnectionPlan

/-- A message as a server handed it out. -/
structure RemoteDelivery where
  channel : ChannelId
  tag : Nat
  message : Broker.Message
  deriving DecidableEq, Repr

structure ServerConnection where
  plan : ConnectionPlan
  isOpen : Bool := true
  /-- How many messages have been handed out. -/
  handedOut : Nat := 0
  /-- What has been handed out and not been taken yet. -/
  arrivals : List RemoteDelivery := []
  /-- The consumer knows that the connection is gone. -/
  brokenOffSeen : Bool := false
  deriving DecidableEq, Repr

/-- What a consumer on a server gets. -/
inductive RemoteArrival where
  | delivery (d : RemoteDelivery)
  | failed (e : Broker.Error)
  | ended
  /-- There is nothing. -/
  | nothingYet
  deriving DecidableEq, Repr

/-- A server, what it will do, and what it saw. -/
structure BrokerServer where
  host : String
  port : Nat
  unreachable : Bool := false
  /-- The plans of the next connections; after that it accepts everything. -/
  plans : List ConnectionPlan := []
  messages : List Broker.Message := []
  connections : List ServerConnection := []
  /-- What was said to it, the latest first. -/
  seen : List Broker.Amqp.Method := []
  /-- A client has confirmed that the server closed a channel. -/
  closeConfirmed : Bool := false
  deriving DecidableEq, Repr

namespace BrokerServer

/-- The server after something was said to it. -/
def see (s : BrokerServer) (m : Broker.Amqp.Method) : BrokerServer :=
  { s with seen := m :: s.seen }

/-- The server with a connection changed. -/
def modify (s : BrokerServer) (c : ChannelId) (f : ServerConnection → ServerConnection) :
    BrokerServer :=
  { s with connections := s.connections.modify c f }

/-- The server after a connection went away. -/
def breakOff (s : BrokerServer) (c : ChannelId) : BrokerServer :=
  s.modify c fun k => { k with isOpen := false }

def closeChannel (s : BrokerServer) (c : ChannelId) : BrokerServer :=
  { s.breakOff c with closeConfirmed := true }

/-- The server after it failed a method, unless it fell silent. -/
def fail (s : BrokerServer) (c : ChannelId) : MethodFault → Option BrokerServer
  | .closesChannel => some (s.closeChannel c)
  | .closesConnection => some (s.breakOff c)
  | .hangsUp => some (s.breakOff c)
  | .fallsSilent => none

/-- The server after it handed out the next message, if there is one. -/
def handOut (s : BrokerServer) (c : ChannelId) : BrokerServer :=
  match s.messages with
  | [] => s
  | message :: rest =>
    { s with messages := rest }.modify c fun k =>
      let delivery : RemoteDelivery := ⟨c, k.handedOut + 1, message⟩
      { k with handedOut := delivery.tag, arrivals := k.arrivals ++ [delivery] }

def connect (s : BrokerServer) (a : Broker.Amqp.Address) :
    Option (Option ChannelId) × BrokerServer :=
  if s.unreachable || a.host != s.host || a.port != s.port then (some none, s)
  else
    let plan := s.plans.head?.getD {}
    let s := { s with plans := s.plans.drop 1 }
    if plan.refuse then (some none, s)
    else
      let m : Broker.Amqp.Method := .connect a.user a.password a.vhost
      let s := s.see m
      match plan.fault? m with
      | some .fallsSilent => (none, s)
      | some _ => (some none, s)
      | none =>
        (some (some s.connections.length), { s with connections := s.connections ++ [{ plan }] })

def call (s : BrokerServer) (c : ChannelId) (m : Broker.Amqp.Method) :
    Option Bool × BrokerServer :=
  match s.connections[c]? with
  | none => (some false, s)
  | some k =>
    if !k.isOpen then (some false, s)
    else
      let s := s.see m
      match k.plan.fault? m with
      | some how =>
        match s.fail c how with
        | some s => (some false, s)
        | none => (none, s)
      | none =>
        match m with
        | .consume .. => (some true, s.handOut c)
        | _ => (some true, s)

/-- What becomes of a publication. -/
def turn (s : BrokerServer) (c : ChannelId) (how : PublicationTurn) :
    Option (Option Confirmation) × BrokerServer :=
  let s := s.modify c fun k =>
    { k with plan := { k.plan with publications := k.plan.publications.drop 1 } }
  match how with
  | .ack => (some (some .acked), s)
  | .nack => (some (some .nacked), s)
  | .hangsUp => (some none, s.breakOff c)
  | .fallsSilent => (none, s)
  | .ackAndClose => (some (some .acked), s.closeChannel c)

def publish (s : BrokerServer) (c : ChannelId) (p : Broker.Amqp.Publication) :
    Option (Option Confirmation) × BrokerServer :=
  match s.connections[c]? with
  | none => (some none, s)
  | some k =>
    if !k.isOpen then (some none, s)
    else
      let s := s.see (.publish p)
      match k.plan.fault? (.publish p) with
      | some how =>
        match s.fail c how with
        | some s => (some none, s)
        | none => (none, s)
      | none => s.turn c (k.plan.publications.head?.getD .ack)

def isOpen (s : BrokerServer) (c : ChannelId) : Bool :=
  s.connections[c]?.any fun k => k.isOpen

def answer : Broker.Answering BrokerServer
  | .connect a, s => s.connect a
  | .isOpen c, s => (some (s.isOpen c), s)
  | .call c m, s => s.call c m
  | .publish c p, s => s.publish c p

/-- A settlement, which is not answered; whether it could be sent. -/
def settle (s : BrokerServer) (d : RemoteDelivery) (how : Broker.Settlement) :
    Bool × BrokerServer :=
  match s.connections[d.channel]? with
  | none => (false, s)
  | some k =>
    if !k.isOpen then (false, s)
    else
      let m : Broker.Amqp.Method := match how with
        | .ack => .ack d.tag
        | .reject => .nack d.tag
      let s := s.see m
      match k.plan.fault? m with
      | some fault => (true, (s.fail d.channel fault).getD s)
      | none =>
        if k.plan.hangUpAfterAck && how == .ack then (true, s.breakOff d.channel)
        else (true, s.handOut d.channel)

/-- What the consumer of a connection gets. It is told once that the connection is gone. -/
def next (s : BrokerServer) (c : ChannelId) : RemoteArrival × BrokerServer :=
  match s.connections[c]? with
  | none => (.ended, s)
  | some k =>
    match k.arrivals with
    | d :: rest => (.delivery d, s.modify c fun k => { k with arrivals := rest })
    | [] =>
      if k.isOpen then (.nothingYet, s)
      else if k.brokenOffSeen then (.ended, s)
      else
        (.failed (.consume "connection lost"),
          s.modify c fun k => { k with brokenOffSeen := true })

end BrokerServer
end ReplyPipeline
