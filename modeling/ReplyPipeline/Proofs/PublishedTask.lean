import ReplyPipeline.Pipeline.Gateway
import ReplyPipeline.Proofs.EnvelopeText

/-!
# Tasks as they are published

The gateway publishes the task of an event, with the event's payload one level deeper inside it
(`Broker.Message.IsFreshTask` says what the message holds). The worker decodes the task to what it
was exactly when the payload leaves room for that level: the deepest payloads that are still events
make tasks that cannot be decoded.
-/
namespace ReplyPipeline

open Json (Value)
open Decimal (Format)

namespace Event

variable {body : Bytes} {event : Event}

theorem members_of_ofBytes (h : ofBytes body = .ok event) :
    ∃ members, (Value.object members).Readable Format.double.Holds Json.nestingLimit ∧
      ofMembers members = .ok event := by
  unfold ofBytes at h
  split at h
  · cases h
  next v parsed =>
    obtain ⟨rest, read⟩ := Json.eq_ok_of_run parsed
    have readable := Json.yields_readValue _ _ _ _ read
    unfold ofValue at h
    split at h
    next members => exact ⟨members, readable, Json.eq_ok_of_mapError h⟩
    · cases h

/-- The payload of an event are its members, and its agent bot is one of them if that is not null. -/
theorem payload_of_ofMembers {members : List (String × Value)} (h : ofMembers members = .ok event) :
    event.payload = .object members ∧
      event.agentBot = (members.lookup "agent_bot").bind fun
        | .null => none
        | v => some v := by
  obtain ⟨_, -, made⟩ := Json.eq_ok_of_bind h
  obtain ⟨_, -, made⟩ := Json.eq_ok_of_bind made
  obtain ⟨_, -, made⟩ := Json.eq_ok_of_bind made
  obtain ⟨_, -, made⟩ := Json.eq_ok_of_bind made
  obtain ⟨_, -, made⟩ := Json.eq_ok_of_bind made
  cases made
  exact ⟨rfl, rfl⟩

/-- The payload of an event is the object that was read, and its agent bot is a member of it. -/
theorem payload_of_ofBytes (h : ofBytes body = .ok event) :
    event.payload.Readable Format.double.Holds Json.nestingLimit ∧
      ∀ v, event.agentBot = some v → event.payload.get? "agent_bot" = some v := by
  obtain ⟨members, readable, made⟩ := members_of_ofBytes h
  obtain ⟨payload, bot⟩ := payload_of_ofMembers made
  rw [payload, bot]
  refine ⟨readable, fun v hv => ?_⟩
  obtain ⟨w, found, kept⟩ := Option.bind_eq_some_iff.1 hv
  split at kept
  · cases kept
  · cases kept
    exact found

/-- The body of an event with so many lists, one in the other, in a member that nobody looks at. -/
def nestedBody (lists : Nat) : Bytes :=
  Text.Utf8.encode
    ("\x7b\"agent_bot\":true,\"content\":\"hi\",\"event\":\"message_created\",\"id\":42,\"x\":".toList ++
      List.replicate lists '[' ++ List.replicate lists ']' ++ ['\x7d'])

/-- It is an event up to the bound of the reader, accepted and with an id, and its payload nests one
level more than the lists. -/
theorem exists_nested (lists : Nat)
    (check : ((ofBytes (nestedBody lists)).toOption.any fun e =>
      (({} : Filter).rejection? e).isNone && e.correlationId?.isSome && e.payload.isWhole &&
        e.payload.depth == lists + 1) = true) :
    ∃ event id, ofBytes (nestedBody lists) = .ok event ∧ ({} : Filter).rejection? event = none ∧
      event.correlationId? = some id ∧ event.payload.isWhole = true ∧
      event.payload.depth = lists + 1 := by
  obtain ⟨event, read, facts⟩ := (Option.any_eq_true ..).1 check
  simp only [Bool.and_eq_true, Option.isNone_iff_eq_none, Option.isSome_iff_exists, beq_iff_eq]
    at facts
  obtain ⟨⟨⟨accepted, id, named⟩, whole⟩, depth⟩ := facts
  exact ⟨event, id, Json.eq_ok_of_toOption read, accepted, named, whole, depth⟩

end Event

def Instant.sample : Instant := ⟨2026, 1, 1, 0, 0, 0, 0⟩

theorem Instant.sample_proper : sample.Proper where
  month_pos := by decide
  month_le := by decide
  day_pos := by decide
  day_le := by decide
  hour := by decide
  minute := by decide
  second := by decide
  nanos := .inl (by decide)
  first := by decide
  last := by decide

namespace Envelope

variable {event : Event} {id : CorrelationId} {now : Instant} {n : Nat}

/-- The settings in a task nest one level less than the payload. -/
theorem agent_of_ofEvent {P : Decimal.Binary → Prop}
    (bot : ∀ v, event.agentBot = some v → event.payload.get? "agent_bot" = some v)
    (h : event.payload.Readable P (n + 2)) :
    ∀ c, (ofEvent event id now).agent = some c → c.Writable P n := by
  intro c hc v hv
  obtain ⟨w, active, rfl⟩ := Option.map_eq_some_iff.1 hc
  have settings := h.get? (bot w (Option.filter_eq_some_iff.1 active).1)
  obtain ⟨found, object⟩ := Option.filter_eq_some_iff.1 hv
  refine ⟨settings.get? found, ?_⟩
  rintro rfl
  cases object

theorem exists_decoded {body : Bytes} (decoded : Event.ofBytes body = .ok event)
    (id : CorrelationId) (proper : now.Proper) (room : event.payload.depth ≤ 126) :
    ∃ raw botConfig, ofBytes (ofEvent event id now).toBytes =
        .ok ((ofEvent event id now).withValues raw botConfig) ∧
      (event.payload.isWhole = true →
        (ofEvent event id now).withValues raw botConfig = ofEvent event id now) := by
  obtain ⟨readable, bot⟩ := Event.payload_of_ofBytes decoded
  have writable {P : Decimal.Binary → Prop} (h : event.payload.Readable P 126) :
      (ofEvent event id now).Writable P :=
    ⟨proper, h, agent_of_ofEvent bot (h.within (Nat.le_succ_of_le room))⟩
  have payload := readable.within room
  obtain ⟨raw, botConfig, back, same⟩ := ofBytes_toBytes (writable payload)
  exact ⟨raw, botConfig, back, fun whole => same (writable (payload.whole whole))⟩

/-- The task of an event whose payload holds whole numbers only is decoded to what it was if and
only if the payload nests no deeper than one level below the bound. -/
theorem published_task_decoded_iff {body : Bytes} (decoded : Event.ofBytes body = .ok event)
    (whole : event.payload.isWhole = true) (id : CorrelationId) (proper : now.Proper) :
    ofBytes (ofEvent event id now).toBytes = .ok (ofEvent event id now) ↔
      event.payload.depth ≤ 126 := by
  constructor
  · intro back
    exact (writable_of_ofBytes back).raw.depth_le
  · intro room
    obtain ⟨raw, botConfig, back, same⟩ := exists_decoded decoded id proper room
    rw [back, same whole]

/-- The deepest payload that makes a task that can be decoded. -/
theorem published_task_decoded_of_nested :
    ∃ event id, Event.ofBytes (Event.nestedBody 125) = .ok event ∧
      event.payload.isWhole = true ∧ Instant.sample.Proper ∧
      ofBytes (ofEvent event id .sample).toBytes = .ok (ofEvent event id .sample) := by
  obtain ⟨event, id, decoded, -, -, whole, depth⟩ := Event.exists_nested 125 (by decide +kernel)
  refine ⟨event, id, decoded, whole, Instant.sample_proper, ?_⟩
  exact (published_task_decoded_iff decoded whole id Instant.sample_proper).2 (Nat.le_of_eq depth)

/-- Some events are accepted and published as tasks that are not decoded. -/
theorem published_tasks_not_all_decoded :
    ¬ ∀ (g : Gateway) (body : Bytes) (event : Event) (id : CorrelationId) (now : Instant),
      Event.ofBytes body = .ok event → g.filter.rejection? event = none →
      event.correlationId? = some id → event.payload.isWhole = true → now.Proper →
      ofBytes (ofEvent event id now).toBytes = .ok (ofEvent event id now) := by
  intro all
  obtain ⟨event, id, decoded, accepted, named, whole, depth⟩ :=
    Event.exists_nested 126 (by decide +kernel)
  have back := all {} _ event id .sample decoded accepted named whole Instant.sample_proper
  have room : event.payload.depth ≤ 126 := (writable_of_ofBytes back).raw.depth_le
  omega

end Envelope

namespace Broker.Message

/-- The message carries the fresh task of an event. Its body is the task's record, and can be
decoded if the event was read from a body and left room for one more level. -/
structure IsFreshTask (event : Event) (id : CorrelationId) (now : Instant) (m : Message) :
    Prop where
  correlationId : m.correlationId = some id.text
  notRedelivered : m.redelivered = false
  body : m.body = Text.Utf8.encode (Json.recordChars
    [("correlation_id", Json.quoteChars id.text),
     ("tenant_id", i64Chars event.tenant),
     ("conversation_id", i64Chars event.conversationId),
     ("inbox_id", i64Chars event.inboxId),
     ("content", Json.quoteChars event.contentText),
     ("message_kind", event.messageKind.chars),
     ("sender", Json.optionChars Sender.chars (event.sender.map fun a => ⟨a.id, a.kind, a.name⟩)),
     ("agent_config",
       Json.optionChars AgentConfig.chars (event.activeAgentBot?.map AgentConfig.ofValue)),
     ("created_at", Json.quoteChars now.text),
     ("attempt_count", ['0']),
     ("raw", event.payload.chars)])
  decoded : ∀ body, Event.ofBytes body = .ok event → now.Proper → event.payload.depth ≤ 126 →
    ∃ task, m.envelope? = some task ∧ task.correlationId = id ∧ task.attempts = 0 ∧
      task.tenant = event.tenant ∧ task.conversation = event.conversationId ∧
      task.content = event.contentText ∧ task.createdAt = now ∧
      (event.payload.isWhole = true → task.raw = event.payload)

/-- The message of a fresh envelope does. -/
theorem isFreshTask_ofEvent (event : Event) (id : CorrelationId) (now : Instant) :
    (ofEnvelope (.ofEvent event id now)).IsFreshTask event id now where
  correlationId := rfl
  notRedelivered := rfl
  body := by
    have none : Decimal.natText (0 : UInt32).toNat = ['0'] := by decide
    simp only [ofEnvelope, Envelope.toBytes, Envelope.chars, Envelope.ofEvent, none]
    rfl
  decoded := by
    intro body decoded proper room
    obtain ⟨raw, botConfig, back, same⟩ := Envelope.exists_decoded decoded id proper room
    have opens : (ofEnvelope (.ofEvent event id now)).envelope? =
        some ((Envelope.ofEvent event id now).withValues raw botConfig) :=
      congrArg Except.toOption back
    refine ⟨_, opens, rfl, rfl, rfl, rfl, rfl, rfl, fun whole => ?_⟩
    exact congrArg Envelope.raw (same whole)

end Broker.Message
end ReplyPipeline
