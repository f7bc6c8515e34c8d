import ReplyPipeline.Broker.Remote
import ReplyPipeline.Completion
import ReplyPipeline.Environment
import ReplyPipeline.Http.Service
import ReplyPipeline.Log
import ReplyPipeline.Pipeline.Worker
import ReplyPipeline.Settings
import ReplyPipeline.Simulation.World
import ReplyPipeline.Store.Remote

/-!
# Launching a program

A program takes its environment, to which a file may add, starts to log, loads its settings, puts
its parts together, and runs until a signal stops it. What goes wrong before it runs is reported
and ends it with code 1.

Covered are a gateway that gets no requests and a worker that gets no messages.
-/
namespace ReplyPipeline.Settings

/-!
## The parts

What the settings make of the gateway, the worker, and the servers and platforms that they talk to.
Only the store's URL can be one that names nothing.
-/

/-- How tasks are kept from being done twice. -/
def idempotency (s : Settings) : Idempotency :=
  ⟨s.store.keyStart, s.store.markerTtl, s.store.lockTtl, s.store.timeout⟩

/-- The gateway. Enqueueing may take as long as an operation of the broker. -/
def gateway (s : Settings) : Gateway where
  filter := { botSenderTypes := s.botSenderTypes }
  idempotency := s.idempotency
  enqueueLimit := s.broker.timeout

def worker (s : Settings) : Worker where
  handler := ⟨s.idempotency, s.retry, some s.processingTimeout⟩
  reconnectDelay := s.broker.reconnectDelay

def remoteStore? (s : Settings) : Option Store.Remote := Store.Remote.ofUrl? s.store.url

def remoteBroker (s : Settings) : Broker.Remote :=
  .ofUrl s.broker.url s.broker.topology s.broker.timeout

def completionModel (s : Settings) : CompletionModel :=
  ⟨s.model.baseUrl, s.model.key, s.model.model, .ofLiteral s.model.temperature⟩

def chatPlatform (s : Settings) : ChatPlatform := ⟨s.platform.baseUrl, s.platform.token⟩

/-- The gateway's service. There is none without a store. -/
def service? (s : Settings) : Option Http.Service :=
  s.remoteStore?.map fun _ => { gateway := s.gateway }

end ReplyPipeline.Settings

namespace ReplyPipeline

/-! ## Running -/

inductive Role where
  | gateway
  | worker
  deriving DecidableEq, Repr

def Role.name : Role → String
  | .gateway => "parley-gateway"
  | .worker => "parley-worker"

inductive LaunchError where
  | configuration (cause : InvalidSetting)
  /-- The URL names no store. -/
  | store
  /-- The address is none of this machine's. -/
  | foreignAddress (a : Net.SocketAddress)
  deriving DecidableEq, Repr

namespace LaunchError

/-- What the program was about to do. -/
def context : LaunchError → String
  | .configuration _ => "invalid configuration"
  | .store => "invalid idempotency store settings"
  | .foreignAddress a => "failed to bind " ++ a.text

/-- What went wrong. What is wrong with the URL of a store is left open. -/
def cause : LaunchError → String
  | .configuration e => e.message ++ "\n"
  | .store => (Store.Error.connection "").message
  | .foreignAddress _ => "Cannot assign requested address (os error 99)\n"

def report (e : LaunchError) : String :=
  "Error: " ++ e.context ++ "\n\nCaused by:\n    " ++ e.cause

end LaunchError

/-- What is known only when a program runs. -/
structure Occasion where
  /-- The address that the gateway got. -/
  address : String
  /-- The name of the worker's consumer. -/
  consumerTag : String
  deriving DecidableEq, Repr

structure Launch where
  format : Log.Format
  /-- What was written to the log. -/
  records : List Log.Record
  failure : Option LaunchError
  deriving DecidableEq, Repr

namespace Launch

/-- The counters as they are logged. -/
def statsText (s : WorkerCounts) : String :=
  let field (name : String) (n : Nat) : String := name ++ ": " ++ Decimal.showNat n
  "WorkerStats \x7b " ++ String.intercalate ", "
    [field "processed" s.processed, field "succeeded" s.succeeded, field "retried" s.retried,
     field "dead_lettered" s.deadLettered, field "malformed" s.malformed] ++ " \x7d"

def loggingRecord (r : Role) : Log.Record :=
  ⟨"parley_observability::tracing", "logging initialized", [("service", .quoted r.name)]⟩

def gatewayRecords (o : Occasion) : List Log.Record :=
  let record (message : String) (fields : List (String × Log.FieldValue)) : Log.Record :=
    ⟨"parley_gateway", message, fields⟩
  [record "listening" [("addr", .shown o.address)], record "shutdown signal received" [],
   record "gateway stopped" []]

def workerRecords (s : Settings) (o : Occasion) : List Log.Record :=
  let record (message : String) (fields : List (String × Log.FieldValue)) : Log.Record :=
    ⟨"parley_worker", message, fields⟩
  let inner := "parley_infra::worker::consumer"
  [record "worker starting" [("queue", .shown s.broker.topology.workQueue),
     ("max_attempts", .count s.retry.maxAttempts.toNat)],
   ⟨inner, "worker started", [("consumer_tag", .shown o.consumerTag)]⟩,
   record "shutdown signal received" [], record "draining in-flight task" [],
   ⟨inner, "worker stopped", [("stats", .shown (statsText {}))]⟩]

/-- The records of a program that has its settings, or why it does not run. -/
def runRole (r : Role) (s : Settings) (o : Occasion) : Except LaunchError (List Log.Record) :=
  if s.remoteStore?.isNone then .error .store
  else
    match r with
    | .gateway =>
      if s.bindAddress.isEverywhere then .ok (gatewayRecords o)
      else .error (.foreignAddress s.bindAddress)
    | .worker => .ok (workerRecords s o)

/-- What becomes of a program in an environment and with a file of more. -/
def perform (r : Role) (env : Environment) (file : Option String) (o : Occasion) : Launch :=
  let env := file.elim env env.withFile
  let directives := Log.directivesOf (env "RUST_LOG")
  let outcome := match Settings.load env with
    | .ok s => runRole r s o
    | .error e => .error (.configuration e)
  { format := .ofSetting (env "LOG_FORMAT")
    records := (loggingRecord r :: outcome.toOption.getD []).filter (Log.admits directives)
    failure := match outcome with
      | .ok _ => none
      | .error e => some e }

/-- The record that says that a program runs. -/
def startMessage : Role → String
  | .gateway => "listening"
  | .worker => "worker started"

def started (l : Launch) (r : Role) : Bool := l.records.any fun x => x.message = startMessage r

def exitCode (l : Launch) : Nat := if l.failure.isSome then 1 else 0

def errorOutput (l : Launch) : String := (l.failure.map LaunchError.report).getD ""

end Launch
end ReplyPipeline
