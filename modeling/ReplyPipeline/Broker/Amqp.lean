import ReplyPipeline.Broker.Basic
import ReplyPipeline.Net.Url

/-!
# AMQP

What a client says to a server in AMQP 0-9-1, as far as the broker needs it: it connects to an
address, opens a channel, prepares it, publishes, consumes and settles. The text of a URL gives the
address.
-/
namespace ReplyPipeline.Broker.Amqp

/-- Where a server is and how to log in there. -/
structure Address where
  host : String
  port : Nat
  user : String
  password : String
  /-- The virtual host. -/
  vhost : String
  deriving DecidableEq, Repr

namespace Address

/-- The schemes of the URLs, with their ports. -/
def schemePorts : List (String × Nat) := [("amqp", 5672), ("amqps", 5671)]

/-- User and password where a URL has none. -/
def guest : String := "guest"

/-- The address that a URL names. The virtual host is the path without its first slash, and `/`
where there is no path. -/
def ofUrl? (url : String) : Option Address := do
  let u ← Net.Url.ofText? url
  let port ← schemePorts.lookup u.scheme
  if u.isOpaque then none
  else
    let user ← if u.user = "" then some guest else Text.Percent.decodeText? u.user
    let password ← match u.password with
      | some p => Text.Percent.decodeText? p
      | none => some guest
    let vhost ← match u.path.toList with
      | _ :: name => Text.Percent.decodeText? (String.ofList name)
      | [] => some "/"
    return ⟨u.host.getD "localhost", u.port.getD port, user, password, vhost⟩

end Address

/-- A message as it is published. -/
structure Publication where
  exchange : String := ""
  routingKey : String
  contentType : String := "application/json"
  /-- Two means that the server keeps the message when it is restarted. -/
  deliveryMode : Nat := 2
  correlationId : String
  /-- In seconds. -/
  timestamp : Nat
  body : Bytes
  deriving DecidableEq, Repr

/-- The publication of an envelope to a queue. A task from before 1970 counts as from 1970. -/
def Publication.ofEnvelope (queue : String) (e : Envelope) : Publication where
  routingKey := queue
  correlationId := e.correlationId.text
  timestamp := e.createdAt.epochSeconds.toNat
  body := e.toBytes

/-- What a client says to a server. -/
inductive Method where
  | connect (user password vhost : String)
  | openChannel
  /-- Publications shall be confirmed. -/
  | selectConfirms
  | declareExchange (name kind : String)
  | declareQueue (name : String) (arguments : List (String × String))
  | bindQueue (queue exchange routingKey : String)
  /-- No more than a number of unsettled messages shall be handed out. -/
  | limitPrefetch (count : Nat)
  | consume (queue tag : String)
  | publish (p : Publication)
  | ack (tag : Nat)
  /-- The message shall not go back to the queue. -/
  | nack (tag : Nat)
  deriving DecidableEq, Repr

namespace Method

def name : Method → String
  | .connect .. => "connect"
  | .openChannel => "channel.open"
  | .selectConfirms => "confirm.select"
  | .declareExchange .. => "exchange.declare"
  | .declareQueue .. => "queue.declare"
  | .bindQueue .. => "queue.bind"
  | .limitPrefetch _ => "basic.qos"
  | .consume .. => "basic.consume"
  | .publish _ => "basic.publish"
  | .ack _ => "basic.ack"
  | .nack _ => "basic.nack"

/-- The names of the flags that are set. Exchange and queues outlive a restart of the server. -/
def flags : Method → List String
  | .declareExchange .. => ["durable"]
  | .declareQueue .. => ["durable"]
  | _ => []

/-- The error of the broker when a method fails. -/
def failure (m : Method) : Error :=
  let detail := m.name ++ " failed"
  match m with
  | .connect .. => .connection detail
  | .openChannel => .connection detail
  | .selectConfirms => .connection detail
  | .declareExchange .. => .topology detail
  | .declareQueue .. => .topology detail
  | .bindQueue .. => .topology detail
  | .limitPrefetch _ => .consume detail
  | .consume .. => .consume detail
  | .publish _ => .publish detail
  | .ack _ => .settle detail
  | .nack _ => .settle detail

end Method

/-- The declarations of a topology: exchange and dead-letter queue, what binds them, and the work
queue. -/
def declarations (t : Topology) : List Method :=
  [.declareExchange t.deadLetterExchange "direct", .declareQueue t.deadLetterQueue [],
   .bindQueue t.deadLetterQueue t.deadLetterExchange t.deadLetterRoutingKey,
   .declareQueue t.workQueue t.workQueueArguments]

end ReplyPipeline.Broker.Amqp
