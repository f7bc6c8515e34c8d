import Mathlib.Logic.Function.Basic
import ReplyPipeline.Proofs.SettingTable

/-!
# What a key governs

The settings of an environment are those that the tables say, or there is a complaint about a key
whose text means nothing (`Settings.follows_load`). So a key governs the one setting that has it in
the table and nothing else (`Settings.each_key_governs_its_setting`).
-/
namespace ReplyPipeline

open Text (allBlank)

namespace Environment

variable {env : Environment} {key v : String}

theorem value?_eq_none_iff :
    env.value? key = none ↔ ∀ s, env key = some s → allBlank s = true := by
  unfold value?
  cases env key with
  | none => simp
  | some s => simp [Option.filter, Text.trim_eq_empty_iff]

theorem value?_eq_some_iff :
    env.value? key = some v ↔ ∃ s, env key = some s ∧ allBlank s = false ∧ v = Text.trim s := by
  have loud (s : String) : Text.trim s ≠ "" ↔ allBlank s = false := by
    rw [Ne, Text.trim_eq_empty_iff, Bool.not_eq_true]
  unfold value?
  rw [Option.filter_eq_some_iff, Option.map_eq_some_iff, decide_eq_true_iff]
  constructor
  · rintro ⟨⟨s, there, rfl⟩, some_⟩
    exact ⟨s, there, (loud s).1 some_, rfl⟩
  · rintro ⟨s, there, here, rfl⟩
    exact ⟨⟨s, there, rfl⟩, (loud s).2 here⟩

theorem value?_update {o : Option String}
    (same : (o.map Text.trim).filter (· ≠ "") = env.value? key) (k : String) :
    value? (Function.update env key o) k = env.value? k := by
  by_cases here : k = key
  · subst here
    rw [← same, value?, Function.update_self]
  · rw [value?, Function.update_of_ne here, value?]

end Environment

/-- What a loading of a record comes to by its table: each setting is what the environment gives, or
there is a complaint about one whose text is malformed. -/
def Follows {σ : Type} (entries : List (Entry σ)) (env : Environment) :
    Except InvalidSetting σ → Prop
  | .ok s => ∀ e ∈ entries, e.Gives env (e.field s)
  | .error x => ∃ e ∈ entries, e.key = x.key ∧ e.IsMalformed env

/-- The same for one setting. -/
def Entry.Finds {σ : Type} (e : Entry σ) (env : Environment) : Except InvalidSetting e.α → Prop
  | .ok a => e.Gives env a
  | .error x => e.key = x.key ∧ e.IsMalformed env

section Loading

variable {σ τ α : Type} {env : Environment} {key v : String} {default : α} {m : Meaning α}

theorem Entry.Gives.of_none {e : Entry σ} (missing : env.value? e.key = none) :
    e.Gives env e.default :=
  .byDefault (Environment.value?_eq_none_iff.1 missing) rfl

theorem Entry.Gives.of_some {e : Entry σ} {a : e.α} (found : env.value? e.key = some v)
    (said : e.meaning.Says v a) : e.Gives env a := by
  obtain ⟨s, there, loud, rfl⟩ := Environment.value?_eq_some_iff.1 found
  exact .byText there loud said

theorem Entry.IsMalformed.of_some {e : Entry σ} (found : env.value? e.key = some v)
    (nothing : ∀ a, ¬ e.meaning.Says v a) : e.IsMalformed env := by
  obtain ⟨s, there, loud, rfl⟩ := Environment.value?_eq_some_iff.1 found
  exact ⟨s, there, loud, nothing⟩

theorem Entry.gives_text (key default : String) (field : σ → String) :
    (⟨key, default, .text, field⟩ : Entry σ).Gives env (env.text key default) := by
  unfold Environment.text
  cases found : env.value? key with
  | none => exact .of_none found
  | some v => exact .of_some found rfl

theorem Entry.gives_map_text (key default : String) (f : String → α) (field : σ → α) :
    (⟨key, f default, .map .text f, field⟩ : Entry σ).Gives env (f (env.text key default)) := by
  have given : (⟨key, default, .text, id⟩ : Entry String).Gives env (env.text key default) :=
    Entry.gives_text ..
  cases given with
  | byDefault blank same => exact .byDefault blank (congrArg f same)
  | byText there loud said => exact .byText there loud ⟨_, said, rfl⟩

theorem Entry.gives_value? (key : String) (field : σ → Option String) :
    (Entry.optional key .text field).Gives env (env.value? key) := by
  cases found : env.value? key with
  | none => exact .of_none found
  | some v => exact .of_some found ⟨v, rfl, rfl⟩

theorem Entry.finds_read {read : String → Except SettingFault α} (reads : m.ReadBy read)
    (key : String) (default : α) (field : σ → α) :
    (⟨key, default, m, field⟩ : Entry σ).Finds env (env.read key default read) := by
  unfold Environment.read Environment.read?
  cases found : env.value? key with
  | none => exact Entry.Gives.of_none found
  | some v =>
    dsimp only
    cases made : read v with
    | error fault =>
      refine ⟨rfl, .of_some found fun a said => ?_⟩
      cases made.symm.trans ((reads v a).2 said)
    | ok a => exact Entry.Gives.of_some found ((reads v a).1 made)

theorem Entry.finds_read? {read : String → Except SettingFault α} (reads : m.ReadBy read)
    (key : String) (field : σ → Option α) :
    (Entry.optional key m field).Finds env (env.read? key read) := by
  unfold Environment.read?
  cases found : env.value? key with
  | none => exact Entry.Gives.of_none found
  | some v =>
    dsimp only
    cases made : read v with
    | error fault =>
      refine ⟨rfl, .of_some found ?_⟩
      rintro _ ⟨a, said, -⟩
      cases made.symm.trans ((reads v a).2 said)
    | ok a => exact Entry.Gives.of_some found ⟨a, (reads v a).1 made, rfl⟩

/-- What has been found is also checked. The default needs no check. -/
theorem Entry.finds_only {P : α → Prop} [DecidablePred P] {field : σ → α}
    {x : Except InvalidSetting α} {blame : α → InvalidSetting} (standard : P default)
    (blamed : ∀ a, key = (blame a).key)
    (finds : (⟨key, default, m, field⟩ : Entry σ).Finds env x) :
    (⟨key, default, m.only P, field⟩ : Entry σ).Finds env
      (x >>= fun a => if P a then .ok a else .error (blame a)) := by
  cases x with
  | error x =>
    obtain ⟨same, s, there, loud, nothing⟩ := finds
    exact ⟨same, s, there, loud, fun a said => nothing a said.1⟩
  | ok a =>
    change Entry.Finds (⟨key, default, m.only P, field⟩ : Entry σ) env
      (if P a then .ok a else .error (blame a))
    by_cases inside : P a
    · rw [if_pos inside]
      cases finds with
      | byDefault blank same => exact .byDefault blank same
      | byText there loud said => exact .byText there loud ⟨said, inside⟩
    · rw [if_neg inside]
      -- only a text can have been the origin of what is outside
      cases finds with
      | byDefault blank same => exact absurd (same ▸ standard) inside
      | byText there loud said =>
        refine ⟨blamed a, _, there, loud, ?_⟩
        rintro b ⟨said', outside⟩
        exact inside (m.unique said said' ▸ outside)

variable {entries : List (Entry σ)}

theorem Follows.bind {e : Entry σ} {x : Except InvalidSetting e.α}
    {f : e.α → Except InvalidSetting σ} (here : e ∈ entries) (finds : e.Finds env x)
    (rest : ∀ a, e.Gives env a → Follows entries env (f a)) : Follows entries env (x >>= f) := by
  cases x with
  | error fault => exact ⟨e, here, finds⟩
  | ok a => exact rest a finds

theorem Follows.bind_part {parts : List (Entry τ)} {part : σ → τ} {x : Except InvalidSetting τ}
    {f : τ → Except InvalidSetting σ} (here : ∀ e ∈ parts, e.within part ∈ entries)
    (follows : Follows parts env x)
    (rest : ∀ t, (∀ e ∈ parts, e.Gives env (e.field t)) → Follows entries env (f t)) :
    Follows entries env (x >>= f) := by
  cases x with
  | error fault =>
    obtain ⟨e, mem, blamed, bad⟩ := follows
    exact ⟨e.within part, here e mem, blamed, bad⟩
  | ok t => exact rest t follows

end Loading

namespace Settings

open Meaning

variable {env : Environment}

theorem follows_loadBroker : Follows brokerTable env (loadBroker env) := by
  unfold loadBroker
  refine .bind (e := ⟨"RABBITMQ_PORT", 5672, .port, (·.port)⟩) (by simp [brokerTable])
    (Entry.finds_read readBy_port ..) fun port portGiven => ?_
  refine .bind (e := ⟨"BROKER_TIMEOUT_MS", Span.millis 5000, .millis, (·.timeout)⟩)
    (by simp [brokerTable]) (Entry.finds_read readBy_millis ..) fun timeout timeoutGiven => ?_
  refine .bind (e := ⟨"WORKER_RECONNECT_DELAY_SECONDS", Span.seconds 5, .seconds,
    (·.reconnectDelay)⟩) (by simp [brokerTable]) (Entry.finds_read readBy_seconds ..)
    fun reconnectDelay delayGiven => ?_
  simp only [brokerTable, Follows, pure, Except.pure, List.forall_mem_cons]
  exact ⟨Entry.gives_text .., portGiven, Entry.gives_text .., Entry.gives_text ..,
    Entry.gives_text .., Entry.gives_text .., Entry.gives_text .., Entry.gives_text ..,
    timeoutGiven, delayGiven, List.forall_mem_nil _⟩

theorem follows_loadStore : Follows storeTable env (loadStore env) := by
  unfold loadStore
  refine .bind (e := ⟨"REDIS_PORT", 6379, .port, (·.port)⟩) (by simp [storeTable])
    (Entry.finds_read readBy_port ..) fun port portGiven => ?_
  refine .bind (e := ⟨"REDIS_DB", 0, .database, (·.database)⟩) (by simp [storeTable])
    (Entry.finds_read readBy_database ..) fun database databaseGiven => ?_
  refine .bind (e := ⟨"IDEMPOTENCY_TTL_SECONDS", Span.seconds 3600, .seconds, (·.markerTtl)⟩)
    (by simp [storeTable]) (Entry.finds_read readBy_seconds ..) fun markerTtl markerGiven => ?_
  refine .bind (e := ⟨"LOCK_TTL_SECONDS", Span.seconds 300, .seconds, (·.lockTtl)⟩)
    (by simp [storeTable]) (Entry.finds_read readBy_seconds ..) fun lockTtl lockGiven => ?_
  refine .bind (e := ⟨"STORE_TIMEOUT_MS", Span.millis 2000, .millis, (·.timeout)⟩)
    (by simp [storeTable]) (Entry.finds_read readBy_millis ..) fun timeout timeoutGiven => ?_
  simp only [storeTable, Follows, pure, Except.pure, List.forall_mem_cons]
  exact ⟨Entry.gives_text .., portGiven, databaseGiven, Entry.gives_value? .., Entry.gives_text ..,
    markerGiven, lockGiven, timeoutGiven, List.forall_mem_nil _⟩

theorem follows_loadRetry : Follows retryTable env (loadRetry env) := by
  unfold loadRetry
  refine .bind (e := ⟨"MAX_RETRY_ATTEMPTS", 3, .count, (·.maxAttempts)⟩) (by simp [retryTable])
    (Entry.finds_read readBy_count ..) fun maxAttempts attemptsGiven => ?_
  refine .bind (e := ⟨"RETRY_DELAY_BASE_SECONDS", Span.seconds 5, .seconds, (·.baseDelay)⟩)
    (by simp [retryTable]) (Entry.finds_read readBy_seconds ..) fun baseDelay baseGiven => ?_
  refine .bind (e := .optional "RETRY_DELAY_MAX_SECONDS" .seconds (·.maxDelay))
    (by simp [retryTable]) (Entry.finds_read? readBy_seconds ..) fun maxDelay maxGiven => ?_
  simp only [retryTable, Follows, pure, Except.pure, List.forall_mem_cons]
  exact ⟨attemptsGiven, baseGiven, maxGiven, List.forall_mem_nil _⟩

theorem finds_loadTemperature {field : Settings → Decimal.Literal} :
    (⟨"OPENAI_TEMPERATURE", .nearest .single false 7 (-1), .temperature, field⟩ :
      Entry Settings).Finds env (loadTemperature env) :=
  Entry.finds_only (by decide +kernel) (fun _ => rfl) (Entry.finds_read readBy_single ..)

theorem follows_load : Follows table env (load env) := by
  obtain ⟨brokers, stores, retries, own⟩ :=
    (forall_mem_table (P := (· ∈ table))).1 fun _ here => here
  unfold load
  refine .bind_part brokers follows_loadBroker fun broker brokerGiven => ?_
  refine .bind_part stores follows_loadStore fun store storeGiven => ?_
  refine .bind_part retries follows_loadRetry fun retry retryGiven => ?_
  refine .bind (own ⟨"OPENAI_TEMPERATURE", .nearest .single false 7 (-1), .temperature,
    (·.model.temperature)⟩ (by simp [ownTable])) finds_loadTemperature
    fun temperature temperatureGiven => ?_
  refine .bind (own ⟨"GATEWAY_BIND_ADDR", .four [0, 0, 0, 0] 8000, .address, (·.bindAddress)⟩
    (by simp [ownTable])) (Entry.finds_read readBy_address ..) fun bindAddress addressGiven => ?_
  refine .bind (own ⟨"PROCESSING_TIMEOUT_SECONDS", Span.seconds 120, .seconds,
    (·.processingTimeout)⟩ (by simp [ownTable])) (Entry.finds_read readBy_seconds ..)
    fun processingTimeout timeoutGiven => ?_
  -- the default of this one is written as a text that is taken apart like any other
  have bots : commaList "AgentBot,agent_bot" = ["AgentBot", "agent_bot"] := by decide
  have botsGiven : (⟨"BOT_SENDER_TYPES", commaList "AgentBot,agent_bot", .map .text commaList,
      (·.botSenderTypes)⟩ : Entry Settings).Gives env
        (commaList (env.text "BOT_SENDER_TYPES" "AgentBot,agent_bot")) :=
    Entry.gives_map_text ..
  rw [bots] at botsGiven
  simp only [Follows, pure, Except.pure, forall_mem_table]
  refine ⟨fun e he => (brokerGiven e he).within _, fun e he => (storeGiven e he).within _,
    fun e he => (retryGiven e he).within _, ?_⟩
  simp only [ownTable, List.forall_mem_cons]
  exact ⟨botsGiven, addressGiven, Entry.gives_text .., Entry.gives_value? .., Entry.gives_text ..,
    Entry.gives_value? .., Entry.gives_text .., temperatureGiven, timeoutGiven,
    List.forall_mem_nil _⟩

theorem load_congr {env env' : Environment} (same : ∀ key, env.value? key = env'.value? key) :
    load env = load env' := by
  simp only [load, loadBroker, loadStore, loadRetry, loadTemperature, loadTopology,
    Environment.read, Environment.read?, Environment.text, same]

theorem load_update_blank {key blank : String} (nothing : env key = none)
    (h : allBlank blank = true) : load (Function.update env key (some blank)) = load env := by
  apply load_congr
  apply Environment.value?_update
  rw [Environment.value?, nothing, Option.map_some, Text.trim_eq_empty_iff.2 h]
  rfl

theorem load_update_pad {key s a b : String} (there : env key = some s) (ha : allBlank a = true)
    (hb : allBlank b = true) :
    load (Function.update env key (some (a ++ s ++ b))) = load env := by
  apply load_congr
  apply Environment.value?_update
  rw [Environment.value?, there, Option.map_some, Option.map_some, Text.trim_pad s ha hb]

theorem gives_of_load {s : Settings} (loaded : load env = .ok s) :
    ∀ e ∈ table, e.Gives env (e.field s) := by
  have follows : Follows table env (load env) := follows_load
  rwa [loaded] at follows

theorem exists_malformed_of_load {x : InvalidSetting} (failed : load env = .error x) :
    ∃ e ∈ table, e.key = x.key ∧ e.IsMalformed env := by
  have follows : Follows table env (load env) := follows_load
  rwa [failed] at follows

theorem exists_load_iff : (∃ s, load env = .ok s) ↔ ∀ e ∈ table, ¬ e.IsMalformed env := by
  constructor
  · rintro ⟨s, loaded⟩ e here
    exact (gives_of_load loaded e here).not_isMalformed
  · intro fine
    cases result : load env with
    | ok s => exact ⟨s, rfl⟩
    | error x =>
      obtain ⟨e, here, -, bad⟩ := exists_malformed_of_load result
      exact absurd bad (fine e here)

section TwoLoads

variable {env' : Environment} {key : String} (agree : ∀ k, k ≠ key → env k = env' k)
include agree

theorem field_eq_of_agree {s t : Settings} (loaded : load env = .ok s) (loaded' : load env' = .ok t)
    {e : Entry Settings} (here : e ∈ table) (other : e.key ≠ key) : e.field s = e.field t := by
  have given := (gives_of_load loaded e here).congr (agree e.key other)
  exact given.unique (gives_of_load loaded' e here)

theorem key_eq_of_agree (fine : ∀ e ∈ table, e.key ≠ key → ¬ e.IsMalformed env)
    {x : InvalidSetting} (failed : load env' = .error x) : x.key = key := by
  obtain ⟨e, here, same, bad⟩ := exists_malformed_of_load failed
  by_contra other
  rw [← same] at other
  exact fine e here other (bad.congr (agree e.key other).symm)

end TwoLoads

/-- The tables have no key twice and leave no field out. What is loaded from an environment is what
it gives for each of the settings, and loading fails exactly if some text is malformed, whatever
there is a default for. Two environments that differ under one key only come to the same settings,
apart from the one that has this key, if both can be loaded; and if nothing else is malformed,
whatever is complained about is that key. It makes no difference whether there is no text or a blank
one, nor which blank ends a text has. -/
theorem each_key_governs_its_setting :
    (table.map (·.key)).Nodup ∧
    (∀ s t : Settings, (∀ e ∈ table, e.field s = e.field t) → s = t) ∧
    ∀ env : Environment,
      (∀ s, load env = .ok s → ∀ e ∈ table, e.Gives env (e.field s)) ∧
      ((∃ s, load env = .ok s) ↔ ∀ e ∈ table, ¬ e.IsMalformed env) ∧
      (∀ (key : String) (env' : Environment), (∀ k, k ≠ key → env k = env' k) →
        (∀ s t, load env = .ok s → load env' = .ok t →
          ∀ e ∈ table, e.key ≠ key → e.field s = e.field t) ∧
        ((∀ e ∈ table, e.key ≠ key → ¬ e.IsMalformed env) →
          ∀ x, load env = .error x ∨ load env' = .error x → x.key = key)) ∧
      (∀ key blank, env key = none → allBlank blank = true →
        load (Function.update env key (some blank)) = load env) ∧
      ∀ key s a b, env key = some s → allBlank a = true → allBlank b = true →
        load (Function.update env key (some (a ++ s ++ b))) = load env := by
  refine ⟨nodup_keys, fun s t => ext_of_table, fun env => ⟨fun s => gives_of_load,
    exists_load_iff, fun key env' agree => ⟨fun s t loaded loaded' e => ?_, fun fine x => ?_⟩,
    fun key blank => load_update_blank, fun key s a b => load_update_pad⟩⟩
  · exact field_eq_of_agree agree loaded loaded'
  · rintro (failed | failed)
    · exact key_eq_of_agree (fun _ _ => rfl) fine failed
    · exact key_eq_of_agree agree fine failed

def onlyPort (port : String) : Environment := fun k => if k = "RABBITMQ_PORT" then port else none

/-- A port is read between blank ends, all other settings are as in the empty environment, and of a
port that is no number it is complained. -/
theorem each_key_governs_its_setting_of_port :
    (∃ s t, load (onlyPort " 5673\u00a0") = .ok s ∧ load (onlyPort "") = .ok t ∧
      s.broker.port = 5673 ∧ ∀ e ∈ table, e.key ≠ "RABBITMQ_PORT" → e.field s = e.field t) ∧
    ∃ x, load (onlyPort "amqp") = .error x ∧ x.key = "RABBITMQ_PORT" := by
  have agree (p q k : String) (other : k ≠ "RABBITMQ_PORT") : onlyPort p k = onlyPort q k := by
    rw [onlyPort, onlyPort, if_neg other, if_neg other]
  obtain ⟨s, loaded, port⟩ : ∃ s, load (onlyPort " 5673\u00a0") = .ok s ∧ s.broker.port = 5673 :=
    ⟨_, rfl, rfl⟩
  obtain ⟨t, loaded'⟩ : ∃ t, load (onlyPort "") = .ok t := ⟨_, rfl⟩
  obtain ⟨x, failed⟩ : ∃ x, load (onlyPort "amqp") = .error x := ⟨_, rfl⟩
  obtain ⟨-, -, all⟩ := each_key_governs_its_setting
  obtain ⟨-, loads, pairs, -⟩ := all (onlyPort "")
  have fine := loads.1 ⟨t, loaded'⟩
  refine ⟨⟨s, t, loaded, loaded', port, fun e here other => ?_⟩, x, failed, ?_⟩
  · exact ((pairs _ _ (agree "" " 5673\u00a0")).1 t s loaded' loaded e here other).symm
  · exact (pairs _ _ (agree "" "amqp")).2 (fun e here _ => fine e here) x (.inr failed)

end Settings
end ReplyPipeline
