import ReplyPipeline.Broker.Amqp
import ReplyPipeline.Pipeline.Request

/-!
# A broker on a server

Publishers share one channel, which is kept in a slot. It is opened, put into confirm mode and
given the declarations when it is first needed, and used again as long as it is open. Every failure
empties the slot, so that the next operation connects anew. Each consumer has a connection of its
own.

The operations are programs: they ask for the slot and for what goes over the wire. A server may
also fall silent; `ClientAction.run` says how far an operation gets with one.
-/
namespace ReplyPipeline.Broker

/-- The name of a channel. Every connection has one. -/
abbrev ChannelId := Nat

/-- What a server makes of a publication. -/
inductive Confirmation where
  | acked
  | nacked
  deriving DecidableEq, Repr

/-- What goes over the wire. -/
inductive WireRequest where
  /-- A connection to a server. -/
  | connect (a : Amqp.Address)
  /-- Whether a channel is open. -/
  | isOpen (c : ChannelId)
  /-- A method that the server confirms. -/
  | call (c : ChannelId) (m : Amqp.Method)
  | publish (c : ChannelId) (p : Amqp.Publication)
  deriving DecidableEq, Repr

/-- What is answered. A publication that breaks the channel gets no confirmation. -/
def WireRequest.Answer : WireRequest → Type
  | .connect _ => Option ChannelId
  | .isOpen _ => Bool
  | .call .. => Bool
  | .publish .. => Option Confirmation

/-- A request of the client. -/
inductive ClientRequest where
  /-- The channel in the slot. -/
  | kept
  /-- A channel for the slot, or none. -/
  | keep (c : Option ChannelId)
  | wire (r : WireRequest)
  deriving DecidableEq, Repr

def ClientRequest.Answer : ClientRequest → Type
  | .kept => Option ChannelId
  | .keep _ => Unit
  | .wire r => r.Answer

def client : Signature := ⟨ClientRequest, ClientRequest.Answer⟩

abbrev ClientAction (α : Type) := Program client α

/-- How a server with a state answers; where there is no answer it is silent. -/
abbrev Answering (σ : Type) := (r : WireRequest) → σ → Option r.Answer × σ

namespace ClientAction

/-- The channel in the slot. -/
def kept : ClientAction (Option ChannelId) := Program.ask (S := client) .kept

def keep (c : Option ChannelId) : ClientAction Unit := Program.ask (S := client) (.keep c)

def connect (a : Amqp.Address) : ClientAction (Option ChannelId) :=
  Program.ask (S := client) (.wire (.connect a))

def isOpen (c : ChannelId) : ClientAction Bool :=
  Program.ask (S := client) (.wire (.isOpen c))

def say (c : ChannelId) (m : Amqp.Method) : ClientAction Bool :=
  Program.ask (S := client) (.wire (.call c m))

def publish (c : ChannelId) (p : Amqp.Publication) : ClientAction (Option Confirmation) :=
  Program.ask (S := client) (.wire (.publish c p))

/-- Runs a program with what is in the slot and a server. There is no result if the server falls
silent. -/
def run {σ α : Type} (answer : Answering σ) :
    ClientAction α → Option ChannelId → σ → Option α × Option ChannelId × σ
  | .done a, slot, s => (some a, slot, s)
  | .call ClientRequest.kept next, slot, s => run answer (next slot) slot s
  | .call (ClientRequest.keep c) next, _, s => run answer (next ()) c s
  | .call (ClientRequest.wire r) next, slot, s =>
    match answer r s with
    | (some a, s) => run answer (next a) slot s
    | (none, s) => (none, slot, s)

end ClientAction

/-- A broker on a server: where that is, if the URL says so, what is declared there, and how long
an operation may take. -/
structure Remote where
  address : Option Amqp.Address
  topology : Topology
  limit : Span
  deriving DecidableEq, Repr

namespace Remote

def ofUrl (url : String) (topology : Topology) (limit : Span) : Remote :=
  ⟨Amqp.Address.ofUrl? url, topology, limit⟩

/-- Says methods one after the other until one fails. -/
def sayAll (c : ChannelId) : List Amqp.Method → ClientAction (Except Error Unit)
  | [] => return .ok ()
  | m :: rest => do
    if ← ClientAction.say c m then sayAll c rest else return .error m.failure

/-- Connects and says some methods. -/
def openWith (b : Remote) (methods : List Amqp.Method) :
    ClientAction (Except Error ChannelId) := do
  match b.address with
  | none => return .error (.connection "invalid address")
  | some a =>
    match ← ClientAction.connect a with
    | none => return .error (.connection "connect failed")
    | some c => return (← sayAll c methods).map fun () => c

/-- What prepares a channel for publications. -/
def publishMethods (b : Remote) : List Amqp.Method :=
  [.openChannel, .selectConfirms] ++ Amqp.declarations b.topology

/-- What prepares a channel for a consumer and starts it. A consumer is handed one message at a
time. -/
def consumeMethods (b : Remote) (tag : String) : List Amqp.Method :=
  [.openChannel, .limitPrefetch 1] ++ Amqp.declarations b.topology ++
    [.consume b.topology.workQueue tag]

/-- Opens a channel for publications and keeps it. -/
def openPublisher (b : Remote) : ClientAction (Except Error ChannelId) := do
  match ← b.openWith b.publishMethods with
  | .ok c =>
    ClientAction.keep (some c)
    return .ok c
  | .error e => return .error e

/-- The channel that is kept, if it is open, or else a new one. -/
def publisher (b : Remote) : ClientAction (Except Error ChannelId) := do
  match ← ClientAction.kept with
  | none => b.openPublisher
  | some c =>
    if ← ClientAction.isOpen c then return .ok c
    else
      ClientAction.keep none
      b.openPublisher

/-- Declares the topology, unless there is a channel on which that has been done. -/
def ensureTopology (b : Remote) : ClientAction (Except Error Unit) := do
  match ← b.publisher with
  | .ok _ => return .ok ()
  | .error e =>
    ClientAction.keep none
    return .error e

/-- Publishes on a channel and waits for the confirmation. -/
def publishOn (b : Remote) (c : ChannelId) (e : Envelope) : ClientAction (Except Error Unit) := do
  let p := Amqp.Publication.ofEnvelope b.topology.workQueue e
  match ← ClientAction.publish c p with
  | some .acked => return .ok ()
  | some .nacked => return .error .nacked
  | none => return .error (Amqp.Method.publish p).failure

def publish (b : Remote) (e : Envelope) : ClientAction (Except Error Unit) := do
  match ← b.publisher with
  | .error cause => return .error cause
  | .ok c =>
    match ← b.publishOn c e with
    | .ok () => return .ok ()
    | .error cause =>
      ClientAction.keep none
      return .error cause

/-- Finds out whether there is a channel or one can be opened. -/
def checkHealth (b : Remote) : ClientAction (Except Error Unit) := do
  return (← b.publisher).map fun _ => ()

/-- Starts a consumer; answers its channel. -/
def consume (b : Remote) (tag : String) : ClientAction (Except Error ChannelId) :=
  b.openWith (b.consumeMethods tag)

end Remote
end ReplyPipeline.Broker
