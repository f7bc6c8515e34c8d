import ReplyPipeline.Proofs.BlankEnds
import ReplyPipeline.Proofs.IntegerText
import ReplyPipeline.Settings

/-!
# The table of settings

Each setting has a key, a default and a meaning of texts, and stands in one field. The tables say so
for all of them, apart from the order in which they are read and from how they are. A text that is
not blank and means nothing for a setting is malformed there. `Settings.ext_of_table` says that the
tables leave no field out, `Settings.nodup_keys` that no two settings have the same key.
-/
namespace ReplyPipeline

open Decimal (Spells Width)
open Text (allBlank)

/-- What texts mean. No text has two meanings. -/
structure Meaning (α : Type) where
  Says : String → α → Prop
  unique : ∀ {v : String} {a b : α}, Says v a → Says v b → a = b

namespace Meaning

variable {α β : Type} {v : String}

def text : Meaning String where
  Says v a := a = v
  unique h h' := h.trans h'.symm

/-- What is meant, worked on. -/
def map (m : Meaning α) (f : α → β) : Meaning β where
  Says v b := ∃ a, m.Says v a ∧ b = f a
  unique := by
    rintro v b b' ⟨a, ha, rfl⟩ ⟨a', ha', rfl⟩
    rw [m.unique ha ha']

/-- What is meant, if it is such. -/
def only (m : Meaning α) (P : α → Prop) : Meaning α where
  Says v a := m.Says v a ∧ P a
  unique h h' := m.unique h.1 h'.1

/-- A whole number of a width, in digits behind a sign or none. -/
def whole (w : Width) (number : α → Int) (injective : Function.Injective number) : Meaning α where
  Says v a := Spells v.toList (number a) ∧ (w.signed = false → v.toList.head? ≠ some '-') ∧
    w.holds (number a) = true
  unique h h' := injective (h.1.unique h'.1)

def port : Meaning UInt16 :=
  whole .u16 (fun n => n.toNat) fun _ _ h => UInt16.toNat_inj.1 (Int.ofNat.inj h)

def count : Meaning UInt32 :=
  whole .u32 (fun n => n.toNat) fun _ _ h => UInt32.toNat_inj.1 (Int.ofNat.inj h)

def amount : Meaning UInt64 :=
  whole .u64 (fun n => n.toNat) fun _ _ h => UInt64.toNat_inj.1 (Int.ofNat.inj h)

def database : Meaning Int64 := whole .i64 Int64.toInt fun _ _ h => Int64.toInt_inj.1 h

def seconds : Meaning Span := amount.map Span.seconds

def millis : Meaning Span := amount.map Span.millis

/-- What a text is parsed as, if it can be. -/
def parsed (parse : String → Option α) : Meaning α where
  Says v a := parse v = some a
  unique h h' := Option.some.inj (h.symm.trans h')

/-- A number of single precision between zero and two. -/
def temperature : Meaning Decimal.Literal :=
  (parsed (Decimal.Literal.ofText? .single)).only fun x => x.within 0 2 = true

def address : Meaning Net.SocketAddress := parsed Net.SocketAddress.ofText?

/-- A reading gives what texts mean, and fails where they mean nothing. -/
def ReadBy (m : Meaning α) (read : String → Except SettingFault α) : Prop :=
  ∀ v a, read v = .ok a ↔ m.Says v a

theorem ReadBy.congr {m : Meaning α} {read read' : String → Except SettingFault α}
    (h : m.ReadBy read) (same : ∀ v, read' v = read v) : m.ReadBy read' := by
  intro v a
  rw [same]
  exact h v a

theorem ReadBy.map {m : Meaning α} {read : String → Except SettingFault α} (h : m.ReadBy read)
    (f : α → β) : (m.map f).ReadBy fun v => (read v).map f := by
  intro v b
  change (read v).map f = .ok b ↔ ∃ a, m.Says v a ∧ b = f a
  cases made : read v with
  | error fault =>
    refine iff_of_false nofun ?_
    rintro ⟨a, said, -⟩
    cases made.symm.trans ((h v a).2 said)
  | ok a =>
    have said := (h v a).1 made
    constructor
    · intro same
      exact ⟨a, said, (Except.ok.inj same).symm⟩
    · rintro ⟨a', said', rfl⟩
      rw [m.unique said said']
      rfl

theorem holds_iff {w : Width} {n : Int} : w.holds n = true ↔ w.low ≤ n ∧ n ≤ w.high := by
  simp [Width.holds]

/-- A reading of whole numbers gives a number in some form or other. -/
theorem readBy_whole {w : Width} {number : α → Int} {injective : Function.Injective number}
    {form : Int → α} (low : w.low ≤ 0) (high : 0 ≤ w.high) (back : ∀ a, form (number a) = a)
    (held : ∀ n, w.holds n = true → number (form n) = n) :
    (whole w number injective).ReadBy fun v => (readWhole w v).map form := by
  intro v a
  have spelled (n : Int) := Decimal.readInteger_eq_ok_iff_spells low high (s := v) (m := n)
  change ((Decimal.readInteger w v).mapError SettingFault.integer).map form = .ok a ↔
    Spells v.toList (number a) ∧ _ ∧ _
  rw [← spelled]
  cases made : Decimal.readInteger w v with
  | error e => exact iff_of_false nofun nofun
  | ok n =>
    have value : number (form n) = n := held n ((spelled n).1 made).2.2
    constructor
    · intro same
      rw [← Except.ok.inj same, value]
    · intro same
      rw [Except.ok.inj same, Except.mapError, Except.map, back]

theorem readBy_port : port.ReadBy readPort :=
  readBy_whole (by decide) (by decide) (fun _ => UInt16.ofNat_toNat) fun n held => by
    have inside : 0 ≤ n ∧ n ≤ 2 ^ 16 - 1 := holds_iff.1 held
    rw [UInt16.toNat_ofNat_of_lt' (by unfold UInt16.size; omega), Int.toNat_of_nonneg inside.1]

theorem readBy_count : count.ReadBy readCount :=
  readBy_whole (by decide) (by decide) (fun _ => UInt32.ofNat_toNat) fun n held => by
    have inside : 0 ≤ n ∧ n ≤ 2 ^ 32 - 1 := holds_iff.1 held
    rw [UInt32.toNat_ofNat_of_lt' (by unfold UInt32.size; omega), Int.toNat_of_nonneg inside.1]

theorem readBy_amount : amount.ReadBy fun v => (readWhole .u64 v).map fun n => .ofNat n.toNat :=
  readBy_whole (by decide) (by decide) (fun _ => UInt64.ofNat_toNat) fun n held => by
    have inside : 0 ≤ n ∧ n ≤ 2 ^ 64 - 1 := holds_iff.1 held
    rw [UInt64.toNat_ofNat_of_lt' (by unfold UInt64.size; omega), Int.toNat_of_nonneg inside.1]

theorem readBy_database : database.ReadBy readDatabase :=
  readBy_whole (by decide) (by decide) Int64.ofInt_toInt fun n held => by
    have inside : -2 ^ 63 ≤ n ∧ n ≤ 2 ^ 63 - 1 := holds_iff.1 held
    exact Int64.toInt_ofInt_of_le inside.1 (by omega)

theorem readBy_seconds : seconds.ReadBy readSeconds :=
  (readBy_amount.map Span.seconds).congr fun v => by
    unfold readSeconds
    cases readWhole .u64 v <;> rfl

theorem readBy_millis : millis.ReadBy readMillis :=
  (readBy_amount.map Span.millis).congr fun v => by
    unfold readMillis
    cases readWhole .u64 v <;> rfl

theorem readBy_single : (parsed (Decimal.Literal.ofText? .single)).ReadBy readSingle := by
  intro v x
  change readSingle v = .ok x ↔ Decimal.Literal.ofText? .single v = some x
  unfold readSingle
  cases Decimal.Literal.ofText? .single v <;> simp

theorem readBy_address : address.ReadBy readAddress := by
  intro v a
  change readAddress v = .ok a ↔ Net.SocketAddress.ofText? v = some a
  unfold readAddress
  cases Net.SocketAddress.ofText? v <;> simp

end Meaning

/-- A setting in a record. -/
structure Entry (σ : Type) where
  {α : Type}
  key : String
  default : α
  meaning : Meaning α
  field : σ → α

namespace Entry

variable {σ τ : Type} {env env' : Environment}

/-- The setting in a record of which that one is a part. -/
def within (e : Entry σ) (part : τ → σ) : Entry τ := { e with field := e.field ∘ part }

/-- A setting that is missing where its key has no text. -/
def optional {α : Type} (key : String) (meaning : Meaning α) (field : σ → Option α) : Entry σ where
  key := key
  default := none
  meaning := meaning.map some
  field := field

/-- What an environment gives for a setting: the meaning of the text without its blank ends, and the
default where there is no text or a blank one. -/
inductive Gives (e : Entry σ) (env : Environment) (a : e.α) : Prop
  | byDefault : (∀ s, env e.key = some s → allBlank s = true) → a = e.default → Gives e env a
  | byText {s : String} : env e.key = some s → allBlank s = false →
      e.meaning.Says (Text.trim s) a → Gives e env a

/-- There is a text that is not blank, but means nothing. -/
def IsMalformed (e : Entry σ) (env : Environment) : Prop :=
  ∃ s, env e.key = some s ∧ allBlank s = false ∧ ∀ a, ¬ e.meaning.Says (Text.trim s) a

variable {e : Entry σ} {a b : e.α}

theorem Gives.unique (h : e.Gives env a) (h' : e.Gives env b) : a = b := by
  cases h with
  | byDefault blank same =>
    cases h' with
    | byDefault _ same' => exact same.trans same'.symm
    | byText found loud _ => exact absurd (blank _ found) (by simp [loud])
  | byText found loud said =>
    cases h' with
    | byDefault blank _ => exact absurd (blank _ found) (by simp [loud])
    | byText found' _ said' =>
      cases found.symm.trans found'
      exact e.meaning.unique said said'

theorem Gives.not_isMalformed (h : e.Gives env a) : ¬ e.IsMalformed env := by
  rintro ⟨s, found, loud, nothing⟩
  cases h with
  | byDefault blank _ => exact absurd (blank _ found) (by simp [loud])
  | byText found' _ said =>
    cases found.symm.trans found'
    exact nothing _ said

theorem Gives.congr (h : e.Gives env a) (same : env e.key = env' e.key) : e.Gives env' a := by
  cases h with
  | byDefault blank default => exact .byDefault (same ▸ blank) default
  | byText found loud said => exact .byText (same ▸ found) loud said

theorem Gives.within (h : e.Gives env a) (part : τ → σ) : (e.within part).Gives env a := by
  cases h with
  | byDefault blank default => exact .byDefault blank default
  | byText found loud said => exact .byText found loud said

theorem IsMalformed.congr (h : e.IsMalformed env) (same : env e.key = env' e.key) :
    e.IsMalformed env' := by
  obtain ⟨s, found, rest⟩ := h
  exact ⟨s, same ▸ found, rest⟩

end Entry

/-! ## The tables -/

namespace Settings

def brokerTable : List (Entry BrokerSettings) :=
  [⟨"RABBITMQ_HOST", "localhost", .text, (·.host)⟩,
   ⟨"RABBITMQ_PORT", 5672, .port, (·.port)⟩,
   ⟨"RABBITMQ_USER", "guest", .text, (·.user)⟩,
   ⟨"RABBITMQ_PASS", "guest", .text, (·.password)⟩,
   ⟨"RABBITMQ_VHOST", "/", .text, (·.vhost)⟩,
   ⟨"RABBITMQ_QUEUE", "ai_tasks_queue", .text, (·.topology.workQueue)⟩,
   ⟨"RABBITMQ_DLQ", "ai_tasks_dlq", .text, (·.topology.deadLetterQueue)⟩,
   ⟨"RABBITMQ_DLX", "ai_tasks_dlx", .text, (·.topology.deadLetterExchange)⟩,
   ⟨"BROKER_TIMEOUT_MS", Span.millis 5000, .millis, (·.timeout)⟩,
   ⟨"WORKER_RECONNECT_DELAY_SECONDS", Span.seconds 5, .seconds, (·.reconnectDelay)⟩]

def storeTable : List (Entry StoreSettings) :=
  [⟨"REDIS_HOST", "localhost", .text, (·.host)⟩,
   ⟨"REDIS_PORT", 6379, .port, (·.port)⟩,
   ⟨"REDIS_DB", 0, .database, (·.database)⟩,
   .optional "REDIS_PASSWORD" .text (·.password),
   ⟨"IDEMPOTENCY_KEY_PREFIX", "parley:", .text, (·.keyStart)⟩,
   ⟨"IDEMPOTENCY_TTL_SECONDS", Span.seconds 3600, .seconds, (·.markerTtl)⟩,
   ⟨"LOCK_TTL_SECONDS", Span.seconds 300, .seconds, (·.lockTtl)⟩,
   ⟨"STORE_TIMEOUT_MS", Span.millis 2000, .millis, (·.timeout)⟩]

def retryTable : List (Entry RetryPolicy) :=
  [⟨"MAX_RETRY_ATTEMPTS", 3, .count, (·.maxAttempts)⟩,
   ⟨"RETRY_DELAY_BASE_SECONDS", Span.seconds 5, .seconds, (·.baseDelay)⟩,
   .optional "RETRY_DELAY_MAX_SECONDS" .seconds (·.maxDelay)]

/-- The settings that are in no smaller record. -/
def ownTable : List (Entry Settings) :=
  [⟨"BOT_SENDER_TYPES", ["AgentBot", "agent_bot"], .map .text commaList, (·.botSenderTypes)⟩,
   ⟨"GATEWAY_BIND_ADDR", .four [0, 0, 0, 0] 8000, .address, (·.bindAddress)⟩,
   ⟨"CHATWOOT_BASE_URL", "http://localhost:3000", .text, (·.platform.baseUrl)⟩,
   .optional "CHATWOOT_API_TOKEN" .text (·.platform.token),
   ⟨"OPENAI_BASE_URL", "https://api.openai.com/v1", .text, (·.model.baseUrl)⟩,
   .optional "OPENAI_API_KEY" .text (·.model.key),
   ⟨"OPENAI_MODEL", "gpt-3.5-turbo", .text, (·.model.model)⟩,
   ⟨"OPENAI_TEMPERATURE", .nearest .single false 7 (-1), .temperature, (·.model.temperature)⟩,
   ⟨"PROCESSING_TIMEOUT_SECONDS", Span.seconds 120, .seconds, (·.processingTimeout)⟩]

def table : List (Entry Settings) :=
  brokerTable.map (·.within broker) ++ storeTable.map (·.within store) ++
    retryTable.map (·.within retry) ++ ownTable

theorem nodup_keys : (table.map (·.key)).Nodup := by decide +kernel

theorem ext_of_brokerTable {s t : BrokerSettings}
    (h : ∀ e ∈ brokerTable, e.field s = e.field t) : s = t := by
  obtain ⟨_, _, _, _, _, ⟨_, _, _⟩, _, _⟩ := s
  obtain ⟨_, _, _, _, _, ⟨_, _, _⟩, _, _⟩ := t
  simp only [brokerTable, List.forall_mem_cons] at h
  obtain ⟨rfl, rfl, rfl, rfl, rfl, rfl, rfl, rfl, rfl, rfl, -⟩ := h
  rfl

theorem ext_of_storeTable {s t : StoreSettings} (h : ∀ e ∈ storeTable, e.field s = e.field t) :
    s = t := by
  cases s
  cases t
  simp only [storeTable, List.forall_mem_cons] at h
  obtain ⟨rfl, rfl, rfl, rfl, rfl, rfl, rfl, rfl, -⟩ := h
  rfl

theorem ext_of_retryTable {s t : RetryPolicy} (h : ∀ e ∈ retryTable, e.field s = e.field t) :
    s = t := by
  cases s
  cases t
  simp only [retryTable, List.forall_mem_cons] at h
  obtain ⟨rfl, rfl, rfl, -⟩ := h
  rfl

theorem forall_mem_table {P : Entry Settings → Prop} :
    (∀ e ∈ table, P e) ↔ (∀ e ∈ brokerTable, P (e.within broker)) ∧
      (∀ e ∈ storeTable, P (e.within store)) ∧ (∀ e ∈ retryTable, P (e.within retry)) ∧
      ∀ e ∈ ownTable, P e := by
  simp only [table, List.forall_mem_append, List.forall_mem_map, and_assoc]

theorem ext_of_table {s t : Settings} (h : ∀ e ∈ table, e.field s = e.field t) : s = t := by
  obtain ⟨brokers, stores, retries, own⟩ := forall_mem_table.1 h
  have broker := ext_of_brokerTable brokers
  have store := ext_of_storeTable stores
  have retry := ext_of_retryTable retries
  obtain ⟨_, _, _, _, _, ⟨_, _⟩, ⟨_, _, _, _⟩, _⟩ := s
  obtain ⟨_, _, _, _, _, ⟨_, _⟩, ⟨_, _, _, _⟩, _⟩ := t
  simp only [ownTable, List.forall_mem_cons] at own
  obtain ⟨rfl, rfl, rfl, rfl, rfl, rfl, rfl, rfl, rfl, -⟩ := own
  cases broker
  cases store
  cases retry
  rfl

end Settings
end ReplyPipeline
