import ReplyPipeline.Decimal.Literal
import ReplyPipeline.Environment
import ReplyPipeline.Net.SocketAddress
import ReplyPipeline.Retry
import ReplyPipeline.Text.Quoted
import ReplyPipeline.Text.Basic
import ReplyPipeline.Broker.Basic

/-!
# Settings

Both programs take their settings from an environment of named texts. Every setting has a default,
so that an empty environment will do; a text that is blank counts as missing, and blank ends do not
count. A text that is there and is not what it should be is an error, never replaced by the
default. The settings are read in a fixed order, and the first error is reported.
-/
namespace ReplyPipeline

inductive SettingFault where
  | integer (cause : Decimal.IntegerError)
  | notNumber
  | notAddress
  | temperatureRange
  deriving DecidableEq, Repr

def SettingFault.message : SettingFault → String
  | .integer cause => cause.message
  | .notNumber => "invalid float literal"
  | .notAddress => "invalid socket address syntax"
  | .temperatureRange => "must be between 0 and 2"

structure InvalidSetting where
  key : String
  value : String
  fault : SettingFault
  deriving DecidableEq, Repr

def InvalidSetting.message (e : InvalidSetting) : String :=
  "invalid value " ++ Text.Quoted.quote e.value ++ " for " ++ e.key ++ ": " ++ e.fault.message

namespace Environment

/-- What the text under a key is read as, if there is one. -/
def read? {α : Type} (env : Environment) (key : String)
    (read : String → Except SettingFault α) : Except InvalidSetting (Option α) :=
  match env.value? key with
  | none => .ok none
  | some value =>
    match read value with
    | .ok a => .ok (some a)
    | .error fault => .error ⟨key, value, fault⟩

/-- What the text under a key is read as, or else a default. -/
def read {α : Type} (env : Environment) (key : String) (default : α)
    (read : String → Except SettingFault α) : Except InvalidSetting α :=
  (env.read? key read).map (·.getD default)

end Environment

/-! ## Readings of texts -/

def readWhole (w : Decimal.Width) (s : String) : Except SettingFault Int :=
  (Decimal.readInteger w s).mapError .integer

def readSeconds (s : String) : Except SettingFault Span :=
  (readWhole .u64 s).map fun n => Span.seconds (UInt64.ofNat n.toNat)

def readMillis (s : String) : Except SettingFault Span :=
  (readWhole .u64 s).map fun n => Span.millis (UInt64.ofNat n.toNat)

def readPort (s : String) : Except SettingFault UInt16 :=
  (readWhole .u16 s).map fun n => UInt16.ofNat n.toNat

def readCount (s : String) : Except SettingFault UInt32 :=
  (readWhole .u32 s).map fun n => UInt32.ofNat n.toNat

def readDatabase (s : String) : Except SettingFault Int64 := (readWhole .i64 s).map Int64.ofInt

def readSingle (s : String) : Except SettingFault Decimal.Literal :=
  match Decimal.Literal.ofText? .single s with
  | some x => .ok x
  | none => .error .notNumber

def readAddress (s : String) : Except SettingFault Net.SocketAddress :=
  match Net.SocketAddress.ofText? s with
  | some a => .ok a
  | none => .error .notAddress

/-- The texts between commas, without their blank ends and without those that are blank. -/
def commaList (s : String) : List String :=
  ((Text.splitOn ',' s.toList).map fun cs => String.ofList (Text.trimChars cs)).filter (· ≠ "")

/-! ## The settings -/

/-- How to reach the broker, and how long to wait for it. -/
structure BrokerSettings where
  host : String
  port : UInt16
  user : String
  password : String
  /-- The virtual host. -/
  vhost : String
  topology : Topology
  /-- How long an operation may take. -/
  timeout : Span
  /-- How long a worker rests before it connects anew. -/
  reconnectDelay : Span
  deriving DecidableEq, Repr

/-- The address of the broker. The virtual host `/` is written as `%2f`; any other loses the
slashes in front. -/
def BrokerSettings.url (s : BrokerSettings) : String :=
  let vhost :=
    if s.vhost = "/" then "%2f" else String.ofList (s.vhost.toList.dropWhile (· == '/'))
  "amqp://" ++ s.user ++ ":" ++ s.password ++ "@" ++ s.host ++ ":" ++
    Decimal.showNat s.port.toNat ++ "/" ++ vhost

/-- How to reach the store, and how its entries are kept. -/
structure StoreSettings where
  host : String
  port : UInt16
  database : Int64
  password : Option String
  keyStart : String
  markerTtl : Span
  lockTtl : Span
  /-- How long a call may take. -/
  timeout : Span
  deriving DecidableEq, Repr

/-- The address of the store. -/
def StoreSettings.url (s : StoreSettings) : String :=
  let login := match s.password with
    | some p => ":" ++ p ++ "@"
    | none => ""
  "redis://" ++ login ++ s.host ++ ":" ++ Decimal.showNat s.port.toNat ++ "/" ++
    Decimal.showInt s.database.toInt

/-- How to reach the chat platform. -/
structure PlatformSettings where
  baseUrl : String
  token : Option String
  deriving DecidableEq, Repr

/-- How to reach the language model, and how it answers. -/
structure ModelSettings where
  baseUrl : String
  key : Option String
  model : String
  temperature : Decimal.Literal
  deriving DecidableEq, Repr

structure Settings where
  broker : BrokerSettings
  store : StoreSettings
  retry : RetryPolicy
  botSenderTypes : List String
  bindAddress : Net.SocketAddress
  platform : PlatformSettings
  model : ModelSettings
  processingTimeout : Span
  deriving DecidableEq, Repr

namespace Settings

def loadTopology (env : Environment) : Topology where
  workQueue := env.text "RABBITMQ_QUEUE" "ai_tasks_queue"
  deadLetterQueue := env.text "RABBITMQ_DLQ" "ai_tasks_dlq"
  deadLetterExchange := env.text "RABBITMQ_DLX" "ai_tasks_dlx"

def loadBroker (env : Environment) : Except InvalidSetting BrokerSettings := do
  let port ← env.read "RABBITMQ_PORT" 5672 readPort
  let timeout ← env.read "BROKER_TIMEOUT_MS" (Span.seconds 5) readMillis
  let reconnectDelay ← env.read "WORKER_RECONNECT_DELAY_SECONDS" (Span.seconds 5) readSeconds
  return {
    host := env.text "RABBITMQ_HOST" "localhost"
    port
    user := env.text "RABBITMQ_USER" "guest"
    password := env.text "RABBITMQ_PASS" "guest"
    vhost := env.text "RABBITMQ_VHOST" "/"
    topology := loadTopology env
    timeout
    reconnectDelay }

def loadStore (env : Environment) : Except InvalidSetting StoreSettings := do
  let port ← env.read "REDIS_PORT" 6379 readPort
  let database ← env.read "REDIS_DB" 0 readDatabase
  let markerTtl ← env.read "IDEMPOTENCY_TTL_SECONDS" (Span.seconds 3600) readSeconds
  let lockTtl ← env.read "LOCK_TTL_SECONDS" (Span.seconds 300) readSeconds
  let timeout ← env.read "STORE_TIMEOUT_MS" (Span.seconds 2) readMillis
  return {
    host := env.text "REDIS_HOST" "localhost"
    port
    database
    password := env.value? "REDIS_PASSWORD"
    keyStart := env.text "IDEMPOTENCY_KEY_PREFIX" "parley:"
    markerTtl
    lockTtl
    timeout }

def loadRetry (env : Environment) : Except InvalidSetting RetryPolicy := do
  let maxAttempts ← env.read "MAX_RETRY_ATTEMPTS" 3 readCount
  let baseDelay ← env.read "RETRY_DELAY_BASE_SECONDS" (Span.seconds 5) readSeconds
  let maxDelay ← env.read? "RETRY_DELAY_MAX_SECONDS" readSeconds
  return ⟨maxAttempts, baseDelay, maxDelay⟩

/-- The temperature when none is set, `0.7`. -/
def standardTemperature : Decimal.Literal := .nearest .single false 7 (-1)

/-- The temperature, which lies between zero and two. -/
def loadTemperature (env : Environment) : Except InvalidSetting Decimal.Literal := do
  let key := "OPENAI_TEMPERATURE"
  let temperature ← env.read key standardTemperature readSingle
  if temperature.within 0 2 then return temperature
  else .error ⟨key, temperature.plainText .single, .temperatureRange⟩

/-- Where the gateway listens when nothing is set. -/
def standardAddress : Net.SocketAddress := .four [0, 0, 0, 0] 8000

def load (env : Environment) : Except InvalidSetting Settings := do
  let broker ← loadBroker env
  let store ← loadStore env
  let retry ← loadRetry env
  let temperature ← loadTemperature env
  let bindAddress ← env.read "GATEWAY_BIND_ADDR" standardAddress readAddress
  let processingTimeout ← env.read "PROCESSING_TIMEOUT_SECONDS" (Span.seconds 120) readSeconds
  return {
    broker
    store
    retry
    botSenderTypes := commaList (env.text "BOT_SENDER_TYPES" "AgentBot,agent_bot")
    bindAddress
    platform := {
      baseUrl := env.text "CHATWOOT_BASE_URL" "http://localhost:3000"
      token := env.value? "CHATWOOT_API_TOKEN" }
    model := {
      baseUrl := env.text "OPENAI_BASE_URL" "https://api.openai.com/v1"
      key := env.value? "OPENAI_API_KEY"
      model := env.text "OPENAI_MODEL" "gpt-3.5-turbo"
      temperature }
    processingTimeout }

end Settings
end ReplyPipeline
