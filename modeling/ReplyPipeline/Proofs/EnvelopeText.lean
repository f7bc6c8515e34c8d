import ReplyPipeline.Envelope
import ReplyPipeline.Proofs.InstantText
import ReplyPipeline.Proofs.Nesting
import ReplyPipeline.Proofs.RecordText

/-!
# The text of an envelope

Whatever octets an envelope was read from, the text it is written as is read again. All its fields
come back as they were but for numbers of double precision in its free-form values, which may come
back as a neighbour; with whole numbers only the envelope is the same.
-/
namespace ReplyPipeline

open Json (Fills Present ReadsAs Value Yields)
open Decimal (Binary Format)

theorem Json.Value.Readable.present {v : Value} {n : Nat} (h : v.Readable Format.double.Holds n)
    (some : v ≠ .null) : Present v.chars := by
  cases v with
  | null => exact absurd rfl some
  | bool b => cases b <;> exact ⟨_, _, rfl, by decide, by decide⟩
  | string s => exact Json.present_quoteChars s
  | array vs => cases vs <;> exact ⟨Json.octet '[', _, rfl, by decide, by decide⟩
  | object ms => cases ms <;> exact ⟨Json.octet '\x7b', _, rfl, by decide, by decide⟩
  | number k =>
    have readable : k.Readable Format.double.Holds := by cases n <;> exact h
    obtain ⟨m, reads, -⟩ := k.readsAs readable
    obtain ⟨b, bs, shape, start⟩ := Json.leads_of_readsAs reads
    refine ⟨b, bs, shape, (Json.isStart_of_startsNumber start).space, ?_⟩
    rintro rfl
    exact absurd start (by decide)

theorem Json.ne_null_of_readValue {n : Nat} {b : UInt8} {bs rest : Bytes} {v : Value}
    (space : isSpace b = false) (letter : (b == octet 'n') = false)
    (h : readValue n (b :: bs) = .ok (v, rest)) : v ≠ .null := by
  rintro rfl
  rw [readValue.eq_def, skipSpaces_cons space] at h
  simp only at h
  split at h
  · split at h
    · cases h
    · obtain ⟨_, -, same⟩ := eq_ok_of_map h
      cases same
  · split at h
    · split at h
      · cases h
      · obtain ⟨_, -, same⟩ := eq_ok_of_map h
        cases same
    · unfold readScalar at h
      rw [letter] at h
      simp only [Bool.false_eq_true, if_false] at h
      split at h
      · cases eq_ok_of_map_bytes h
      · split at h
        · cases eq_ok_of_map_bytes h
        · split at h
          · obtain ⟨_, -, same⟩ := eq_ok_of_map h
            cases same
          · split at h
            · obtain ⟨_, -, same⟩ := eq_ok_of_map h
              cases same
            · cases h

/-- A value that may be missing is missing where a null stands. -/
theorem Json.yields_optional_value (n : Nat) : Yields (optional readValue n) fun o =>
    ∀ v, o = some v → v.Readable Format.double.Holds n ∧ v ≠ .null := by
  intro bs o rest h v some
  refine ⟨yields_optional (yields_readValue n) bs o rest h v some, ?_⟩
  subst some
  unfold optional at h
  split at h
  next b rest' skipped =>
    split at h
    · cases eq_ok_of_map_bytes h
    next letter =>
      obtain ⟨w, one, same⟩ := eq_ok_of_map h
      cases same
      refine ne_null_of_readValue ?_ (Bool.eq_false_iff.2 letter) one
      have head := List.head?_dropWhile_not isSpace bs
      unfold skipSpaces at skipped
      rw [skipped] at head
      exact head
  · obtain ⟨w, one, -⟩ := eq_ok_of_map h
    rw [readValue.eq_def] at one
    cases one

/-! ## Senders -/

theorem SenderKind.readsAs_chars (k : SenderKind) (n : Nat) :
    ReadsAs (SenderKind.reader n) k.chars k :=
  Json.readsAs_choice (by cases k <;> decide) n

theorem MessageKind.readsAs_chars (k : MessageKind) (n : Nat) :
    ReadsAs (MessageKind.reader n) k.chars k :=
  Json.readsAs_choice (by cases k <;> decide) n

theorem ResponseMode.readsAs_chars (m : ResponseMode) (n : Nat) :
    ReadsAs (ResponseMode.reader n) m.chars m :=
  Json.readsAs_choice (by cases m <;> decide) n

theorem CorrelationId.ofText_text (id : CorrelationId) : ofText id.text = .ok id := by
  unfold ofText
  have shape : Text.trim id.text ≠ "" := by rw [id.trim_text]; exact id.ne_empty
  rw [dif_neg shape]
  obtain ⟨text, trimmed, some⟩ := id
  congr

theorem CorrelationId.readsAs_chars (id : CorrelationId) (n : Nat) :
    ReadsAs (CorrelationId.reader n) id.chars id :=
  (Json.readsAs_text id.text n).refine (by rw [id.ofText_text]; rfl)

theorem readsAs_optional_i64 (i : Option Int64) (n : Nat) :
    ReadsAs (Json.optional i64Reader n) (Json.optionChars i64Chars i) i :=
  Json.readsAs_optionChars fun a _ => ⟨Json.readsAs_i64 a n, Json.present_i64Chars a⟩

theorem readsAs_optional_text (s : Option String) (n : Nat) :
    ReadsAs (Json.optional Json.text n) (Json.optionChars Json.quoteChars s) s :=
  Json.readsAs_optionChars fun a _ => ⟨Json.readsAs_text a n, Json.present_quoteChars a⟩

theorem Sender.readsAs_chars (s : Sender) (n : Nat) :
    ReadsAs (reader (n + 1)) s.chars s := by
  have names : (fields.map (·.name)).Nodup := by decide
  have fills : Fills fields n _ {} _ :=
    .field names 0 rfl rfl (readsAs_optional_i64 s.id n)
      (.field names 1 rfl rfl (s.kind.readsAs_chars n)
        (.field names 2 rfl rfl (readsAs_optional_text s.name n) (.nil _)))
  exact Json.readsAs_record fills nofun rfl rfl

theorem readsAs_optional_sender (s : Option Sender) (n : Nat) :
    ReadsAs (Json.optional Sender.reader (n + 1)) (Json.optionChars Sender.chars s) s :=
  Json.readsAs_optionChars fun a _ => ⟨a.readsAs_chars n, Json.present_recordChars _⟩

/-! ## Settings -/

namespace AgentConfig

/-- The free-form value in the settings can be read, and is not null. -/
def Writable (P : Binary → Prop) (n : Nat) (c : AgentConfig) : Prop :=
  ∀ v, c.botConfig = some v → v.Readable P n ∧ v ≠ .null

theorem readsAs_chars {c : AgentConfig} {n : Nat} (h : c.Writable Format.double.Holds n) :
    ∃ v, ReadsAs (reader (n + 1)) c.chars { c with botConfig := v } ∧
      (c.Writable (fun _ => False) n → v = c.botConfig) := by
  have botConfig : ∃ v, ReadsAs (Json.optional Json.readValue n)
      (Json.optionChars Value.chars c.botConfig) v ∧
      (c.Writable (fun _ => False) n → v = c.botConfig) := by
    cases hc : c.botConfig with
    | none => exact ⟨none, Json.readsAs_optional_none _ n, fun _ => rfl⟩
    | some v =>
      obtain ⟨readable, some⟩ := h v hc
      obtain ⟨w, reads, same⟩ := Value.readsAs readable
      refine ⟨.some w, reads.optional (readable.present some), fun whole => ?_⟩
      rw [same (whole v hc).1]
  obtain ⟨v, reads, same⟩ := botConfig
  have names : (fields.map (·.name)).Nodup := by decide
  have fills : Fills fields n _ {} _ :=
    .field names 0 rfl rfl (readsAs_optional_i64 c.agentId n)
      (.field names 1 rfl rfl (Json.readsAs_text c.agentName n)
        (.field names 2 rfl rfl (readsAs_optional_text c.contextPrompt n)
          (.field names 3 rfl rfl (readsAs_optional_text c.agentType n)
            (.field names 4 rfl rfl (c.responseMode.readsAs_chars n)
              (.field names 5 rfl rfl reads
                (.field names 6 rfl rfl (readsAs_optional_text c.outgoingUrl n) (.nil _)))))))
  exact ⟨v, Json.readsAs_record fills nofun rfl rfl, same⟩

theorem readsAs_optional {o : Option AgentConfig} {n : Nat}
    (h : ∀ c, o = some c → c.Writable Format.double.Holds n) :
    ∃ botConfig, ReadsAs (Json.optional reader (n + 1)) (Json.optionChars chars o)
        (o.map fun c => { c with botConfig }) ∧
      ((∀ c, o = some c → c.Writable (fun _ => False) n) →
        (o.map fun c => { c with botConfig }) = o) := by
  cases o with
  | none => exact ⟨none, Json.readsAs_optional_none _ _, fun _ => rfl⟩
  | some c =>
    obtain ⟨v, reads, same⟩ := readsAs_chars (h c rfl)
    refine ⟨v, reads.optional (Json.present_recordChars _), fun whole => ?_⟩
    rw [same (whole c rfl)]
    rfl

/-- The free-form value in settings that were read is as the reader lets it be. -/
theorem yields_reader (n : Nat) : Yields (reader (n + 1)) (Writable Format.double.Holds n) := by
  have keeps : ∀ f ∈ fields, f.Keeps n fun d => ∀ v, d.botConfig = some (some v) →
      v.Readable Format.double.Holds n ∧ v ≠ .null := by
    refine List.forall_mem_cons.2 ⟨?_, List.forall_mem_cons.2 ⟨?_, List.forall_mem_cons.2 ⟨?_,
      List.forall_mem_cons.2 ⟨?_, List.forall_mem_cons.2 ⟨?_, List.forall_mem_cons.2 ⟨?_,
      List.forall_mem_cons.2 ⟨?_, nofun⟩⟩⟩⟩⟩⟩⟩
    case refine_6 =>
      refine Json.keeps_of (Json.yields_optional_value n) ?_
      rintro a d ha - v some
      cases some
      exact ha v rfl
    all_goals exact Json.keeps_of (P := fun _ => True) (fun _ _ _ _ => trivial) fun _ _ _ hd => hd
  refine Json.yields_record keeps nofun ?_
  rintro d c hd done v some
  cases done
  cases hb : d.botConfig with
  | none => simp [ofDraft, hb] at some
  | some o => exact hd v (by simpa [ofDraft, hb] using some)

end AgentConfig

/-! ## Envelopes -/

namespace Envelope

variable {e : Envelope} {P : Binary → Prop}

/-- The instant lies on the calendar, and the free-form values are as the reader lets them be. -/
structure Writable (P : Binary → Prop) (e : Envelope) : Prop where
  created : e.createdAt.Proper
  raw : e.raw.Readable P 126
  agent : ∀ c, e.agent = some c → c.Writable P 125

/-- The envelope with other free-form values. -/
def withValues (e : Envelope) (raw : Value) (botConfig : Option Value) : Envelope :=
  { e with raw, agent := e.agent.map fun c => { c with botConfig } }

/-- An envelope is read from its text, up to its free-form values. -/
theorem readsAs_chars (h : e.Writable Format.double.Holds) :
    ∃ raw botConfig, ReadsAs (reader Json.nestingLimit) e.chars (e.withValues raw botConfig) ∧
      (e.Writable (fun _ => False) → e.withValues raw botConfig = e) := by
  obtain ⟨raw, readsRaw, sameRaw⟩ := Value.readsAs h.raw
  obtain ⟨botConfig, readsAgent, sameAgent⟩ := AgentConfig.readsAs_optional h.agent
  have created : ReadsAs (instantReader 126) (Json.quoteChars e.createdAt.text) e.createdAt :=
    (Json.readsAs_textAs _ _ _).refine (by rw [Instant.ofText_text h.created]; rfl)
  have names : (fields.map (·.name)).Nodup := by decide
  have fills : Fills fields 126 _ {} _ :=
    .field names 0 rfl rfl (e.correlationId.readsAs_chars 126)
      (.field names 1 rfl rfl (Json.readsAs_i64 e.tenant 126)
        (.field names 2 rfl rfl (Json.readsAs_i64 e.conversation 126)
          (.field names 3 rfl rfl (Json.readsAs_i64 e.inbox 126)
            (.field names 4 rfl rfl (Json.readsAs_text e.content 126)
              (.field names 5 rfl rfl (e.kind.readsAs_chars 126)
                (.field names 6 rfl rfl (readsAs_optional_sender e.sender 125)
                  (.field names 7 rfl rfl readsAgent
                    (.field names 8 rfl rfl created
                      (.field names 9 rfl rfl (Json.readsAs_u32 e.attempts.toNat_lt 126)
                        (.field names 10 rfl rfl readsRaw (.nil _)))))))))))
  have attempts : UInt32.ofNat e.attempts.toNat = e.attempts := UInt32.ofNat_toNat
  refine ⟨raw, botConfig, Json.readsAs_record fills nofun ?_ rfl, fun whole => ?_⟩
  · exact congrArg (fun k => Except.ok { e.withValues raw botConfig with attempts := k }) attempts
  · unfold withValues
    rw [sameRaw whole.raw, sameAgent whole.agent]

/-- What was written is decoded, up to its free-form values. -/
theorem ofBytes_toBytes (h : e.Writable Format.double.Holds) :
    ∃ raw botConfig, ofBytes e.toBytes = .ok (e.withValues raw botConfig) ∧
      (e.Writable (fun _ => False) → e.withValues raw botConfig = e) := by
  obtain ⟨raw, botConfig, reads, same⟩ := readsAs_chars h
  refine ⟨raw, botConfig, ?_, same⟩
  have all := reads [] Json.ends_nil
  rw [List.append_nil] at all
  unfold ofBytes Json.Reader.run toBytes
  rw [all]
  rfl

theorem writable_of_ofBytes {body : Bytes} (h : ofBytes body = .ok e) :
    e.Writable Format.double.Holds := by
  -- The three fields that matter are so as soon as they stand in the draft.
  let Q (d : Draft) : Prop := (∀ t, d.createdAt = some t → t.Proper) ∧
    (∀ v, d.raw = some v → v.Readable Format.double.Holds 126) ∧
    ∀ c, d.agent = some (some c) → c.Writable Format.double.Holds 125
  have instant : Yields (instantReader 126) Instant.Proper := by
    refine Json.yields_refine (P := fun _ => True) (fun _ _ _ _ => trivial) fun s t _ ht => ?_
    cases hs : Instant.ofText s with
    | error f => rw [hs] at ht; cases ht
    | ok t' =>
      rw [hs] at ht
      cases ht
      exact Instant.proper_of_ofText hs
  have keeps : ∀ f ∈ fields, f.Keeps 126 Q := by
    refine List.forall_mem_cons.2 ⟨?_, List.forall_mem_cons.2 ⟨?_, List.forall_mem_cons.2 ⟨?_,
      List.forall_mem_cons.2 ⟨?_, List.forall_mem_cons.2 ⟨?_, List.forall_mem_cons.2 ⟨?_,
      List.forall_mem_cons.2 ⟨?_, List.forall_mem_cons.2 ⟨?_, List.forall_mem_cons.2 ⟨?_,
      List.forall_mem_cons.2 ⟨?_, List.forall_mem_cons.2 ⟨?_, nofun⟩⟩⟩⟩⟩⟩⟩⟩⟩⟩⟩
    case refine_8 =>
      refine Json.keeps_of (Json.yields_optional (AgentConfig.yields_reader 125)) ?_
      rintro a d ha ⟨created, raw, -⟩
      exact ⟨created, raw, fun c hc => ha c (Option.some.inj hc)⟩
    case refine_9 =>
      refine Json.keeps_of instant ?_
      rintro t d ht ⟨-, raw, agent⟩
      exact ⟨fun t' h' => Option.some.inj h' ▸ ht, raw, agent⟩
    case refine_11 =>
      refine Json.keeps_of (Json.yields_readValue 126) ?_
      rintro v d hv ⟨created, -, agent⟩
      exact ⟨created, fun v' h' => Option.some.inj h' ▸ hv, agent⟩
    all_goals exact Json.keeps_of (P := fun _ => True) (fun _ _ _ _ => trivial) fun _ _ _ hd => hd
  have yields : Yields (reader Json.nestingLimit) (Writable Format.double.Holds) := by
    refine Json.yields_record keeps ⟨nofun, nofun, nofun⟩ ?_
    rintro d e ⟨created, raw, agent⟩ done
    unfold ofDraft at done
    obtain ⟨_, -, done⟩ := Json.eq_ok_of_bind done
    obtain ⟨_, -, done⟩ := Json.eq_ok_of_bind done
    obtain ⟨_, -, done⟩ := Json.eq_ok_of_bind done
    obtain ⟨_, -, done⟩ := Json.eq_ok_of_bind done
    obtain ⟨_, -, done⟩ := Json.eq_ok_of_bind done
    obtain ⟨_, -, done⟩ := Json.eq_ok_of_bind done
    obtain ⟨t, ht, done⟩ := Json.eq_ok_of_bind done
    cases done
    refine ⟨created t (Json.eq_some_of_required ht), ?_, fun c hc => agent c ?_⟩
    · cases hv : d.raw with
      | none => trivial
      | some v => exact raw v hv
    · cases ho : d.agent with
      | none => simp [ho] at hc
      | some o => simpa [ho] using hc
  obtain ⟨rest, one⟩ := Json.eq_ok_of_run (Json.eq_ok_of_mapError h)
  exact yields _ _ _ one

def idField : Json.Field Draft :=
  .of "correlation_id" CorrelationId.reader Draft.correlationId
    (fun a d => { d with correlationId := some a }) false

def idEntry (e : Envelope) : Json.Entry Draft where
  name := "correlation_id"
  chars := e.correlationId.chars
  set d := { d with correlationId := some e.correlationId }

/-- The members behind it, whatever they are read as. -/
def otherEntries (e : Envelope) : List (Json.Entry Draft) :=
  [⟨"tenant_id", i64Chars e.tenant, id⟩,
   ⟨"conversation_id", i64Chars e.conversation, id⟩,
   ⟨"inbox_id", i64Chars e.inbox, id⟩,
   ⟨"content", Json.quoteChars e.content, id⟩,
   ⟨"message_kind", e.kind.chars, id⟩,
   ⟨"sender", Json.optionChars Sender.chars e.sender, id⟩,
   ⟨"agent_config", Json.optionChars AgentConfig.chars e.agent, id⟩,
   ⟨"created_at", Json.quoteChars e.createdAt.text, id⟩,
   ⟨"attempt_count", Decimal.natText e.attempts.toNat, id⟩,
   ⟨"raw", e.raw.chars, id⟩]

theorem recordChars_idEntry (e : Envelope) :
    Json.recordChars ((e.idEntry :: e.otherEntries).map fun m => (m.name, m.chars)) = e.chars := rfl

theorem readsAs_idEntry (e : Envelope) (n : Nat) :
    ReadsAs (idField.read n) e.idEntry.chars e.idEntry.set :=
  (e.correlationId.readsAs_chars n).map (β := Draft → Draft) fun a d =>
    { d with correlationId := some a }

theorem keeps_correlationId (id : CorrelationId) :
    ∀ f ∈ fields, ∀ d, f.present d = false → d.correlationId = some id →
      Yields (f.read 126) fun set => (set d).correlationId = some id := by
  refine List.forall_mem_cons.2 ⟨fun d absent hd => ?_, ?_⟩
  · have absent : d.correlationId.isSome = false := absent
    rw [hd] at absent
    cases absent
  · have keeps : ∀ f ∈ fields.tail, f.Keeps 126 fun d => d.correlationId = some id := by
      refine List.forall_mem_cons.2 ⟨?_, List.forall_mem_cons.2 ⟨?_, List.forall_mem_cons.2 ⟨?_,
        List.forall_mem_cons.2 ⟨?_, List.forall_mem_cons.2 ⟨?_, List.forall_mem_cons.2 ⟨?_,
        List.forall_mem_cons.2 ⟨?_, List.forall_mem_cons.2 ⟨?_, List.forall_mem_cons.2 ⟨?_,
        List.forall_mem_cons.2 ⟨?_, nofun⟩⟩⟩⟩⟩⟩⟩⟩⟩⟩
      all_goals
        exact Json.keeps_of (P := fun _ => True) (fun _ _ _ _ => trivial) fun _ _ _ hd => hd
    exact fun f hf d _ hd bs set rest ok => keeps f hf bs set rest ok d hd

theorem correlationId_of_ofDraft {d : Draft} (h : ofDraft d = .ok e) :
    d.correlationId = some e.correlationId := by
  obtain ⟨id, hid, made⟩ := Json.eq_ok_of_bind h
  obtain ⟨_, -, made⟩ := Json.eq_ok_of_bind made
  obtain ⟨_, -, made⟩ := Json.eq_ok_of_bind made
  obtain ⟨_, -, made⟩ := Json.eq_ok_of_bind made
  obtain ⟨_, -, made⟩ := Json.eq_ok_of_bind made
  obtain ⟨_, -, made⟩ := Json.eq_ok_of_bind made
  obtain ⟨_, -, made⟩ := Json.eq_ok_of_bind made
  cases made
  exact Json.eq_some_of_required hid

/-- Whatever else becomes of an envelope, it is decoded with its id: the id stands first, and does
not stand twice. -/
theorem correlationId_of_ofBytes {f : Envelope} (h : ofBytes e.toBytes = .ok f) :
    f.correlationId = e.correlationId := by
  obtain ⟨rest, one⟩ := Json.eq_ok_of_run (Json.eq_ok_of_mapError h)
  have found : fields.find? (·.name == e.idEntry.name) = some idField := rfl
  have absent : idField.present {} = false := rfl
  obtain ⟨fuel, -, read⟩ := Json.record_entry (.open "struct TaskEnvelope" 11) ofDraft
    e.otherEntries found absent (e.readsAs_idEntry 126) []
  rw [recordChars_idEntry, List.append_nil] at read
  have one : _ = Except.ok (f, rest) := read.symm.trans one
  split at one
  · cases one
  next d after members =>
    have kept := Json.kept_of_recordMembersFrom (keeps_correlationId e.correlationId) rfl members
    cases hf : ofDraft d with
    | error m =>
      rw [hf] at one
      cases one
    | ok f' =>
      rw [hf] at one
      cases one
      exact Option.some.inj ((correlationId_of_ofDraft hf).symm.trans kept)

end Envelope
end ReplyPipeline
