import ReplyPipeline.Proofs.EnvelopeText
import ReplyPipeline.Proofs.Playing
import ReplyPipeline.Proofs.Publishing
import ReplyPipeline.Simulation.BrokerServer

/-!
# Channels that are prepared

What is in the slot is a channel on which everything has been accepted that prepares it, once and in
order: an operation puts a channel there only after the last method, and what it finds there it
leaves alone or goes on with. A call ends well only when the caller that has the slot carries it on,
and a publication ends well if its confirmation was the last thing on the wire, and not else. While
the channel is not found closed and nothing fails, it is all that is used.
-/
namespace ReplyPipeline.Broker

namespace Publisher

variable (p : Publisher) (k : Caller)

@[simp] theorem ended_enter (call : PublisherCall) : (p.enter call).ended = p.ended := by
  unfold enter
  split <;> rfl

@[simp] theorem ended_abandon : (p.abandon k).ended = p.ended := by
  unfold abandon
  split <;> rfl

@[simp] theorem ended_timeOut (limit : Span) :
    (p.timeOut limit k).ended = (k, .error (.timeout limit)) :: p.ended :=
  congrArg (List.cons _) (p.ended_abandon k)

@[simp] theorem ended_carriedOn (result : Option (Except Error Unit)) (slot : Option ChannelId) :
    (p.carriedOn k result slot).ended = result.toList.map (k, ·) ++ p.ended := by
  cases result <;> rfl

end Publisher

namespace Amqp

/-- The publication carries an envelope to a queue, to be kept when the server is restarted. Its
body is decoded, up to free-form values, if the envelope can be written. -/
structure Publication.Carries (p : Publication) (queue : String) (e : Envelope) : Prop where
  exchange : p.exchange = ""
  routingKey : p.routingKey = queue
  contentType : p.contentType = "application/json"
  deliveryMode : p.deliveryMode = 2
  correlationId : p.correlationId = e.correlationId.text
  timestamp : p.timestamp = e.createdAt.epochSeconds.toNat
  body : p.body = e.toBytes
  decoded : e.Writable Decimal.Format.double.Holds →
    ∃ raw botConfig, Envelope.ofBytes p.body = .ok (e.withValues raw botConfig)

theorem Publication.carries_iff {p : Publication} {queue : String} {e : Envelope} :
    p.Carries queue e ↔ p = .ofEnvelope queue e := by
  constructor
  · rintro ⟨exchange, routingKey, contentType, deliveryMode, correlationId, timestamp, body, -⟩
    cases p
    simp only at exchange routingKey contentType deliveryMode correlationId timestamp body
    simp only [ofEnvelope, exchange, routingKey, contentType, deliveryMode, correlationId,
      timestamp, body]
  · rintro rfl
    refine ⟨rfl, rfl, rfl, rfl, rfl, rfl, rfl, fun writable => ?_⟩
    obtain ⟨raw, botConfig, back, -⟩ := Envelope.ofBytes_toBytes writable
    exact ⟨raw, botConfig, back⟩

end Amqp

namespace Publishing

variable {σ : Type} {b : Remote} {answer : Answering σ} {s s' : Publishing σ} {c : ChannelId}
  {permits : Publishing σ → PublisherEvent → Prop}

/-- The channel in the slot is prepared. -/
def Ready (b : Remote) (s : Publishing σ) : Prop :=
  ∀ c, s.publisher.slot = some c → b.Prepared c s.log

/-- A channel is prepared that was in the slot and has not been spoken to since, or that has been
prepared since. -/
theorem Ready.prepared (ready : s.Ready b) (sound : s.Sound b) {newer : WireLog}
    (own : WireLog.HasOwnChannels (s.log ++ newer))
    (h : s.publisher.slot = some c ∧ newer.said c = [] ∨ b.Prepared c newer) :
    b.Prepared c (s.log ++ newer) := by
  rcases h with ⟨kept, quiet⟩ | prepared
  · exact (ready c kept).append quiet
  · exact prepared.append_left
      (WireLog.said_eq_nil (sound.known.fresh own prepared.opened_mem))

theorem Ready.after (ready : s.Ready b) (sound : s.Sound b) {e : PublisherEvent}
    (own : (s.after b answer e).log.HasOwnChannels) : (s.after b answer e).Ready b := by
  intro c kept
  rcases sound.after_cases answer e with
    ⟨call, op, newer, result, slot, server, -, -, -, service, eq⟩ | ⟨log, empty | same⟩
  · rw [eq] at own kept ⊢
    obtain rfl : slot = some c := (Publisher.slot_carriedOn ..).symm.trans kept
    exact ready.prepared sound own service.prepared
  · cases empty.symm.trans kept
  · rw [log]
    exact ready c (same.symm.trans kept)

theorem Reaches.ready {server : σ} (run : Reaches b answer permits { server } s)
    (own : s.log.HasOwnChannels) : s.Ready b := by
  induction run with
  | refl => exact nofun
  | step run _ ih =>
    obtain ⟨newer, log⟩ := run.sound.log_after answer _
    exact (ih (log ▸ own).of_append).after run.sound own

theorem Sound.of_ended_ok (sound : s.Sound b) {e : PublisherEvent} {k : Caller}
    (h : (s.after b answer e).publisher.ended = (k, .ok ()) :: s.publisher.ended) :
    e = .serve ∧ ∃ op : Operation, s.publisher.holder = some (.ready ⟨k, op.program b⟩) := by
  cases e with
  | enter j op => exact absurd (h.symm.trans (Publisher.ended_enter ..)) (List.cons_ne_self _ _)
  | abandon j => exact absurd (h.symm.trans (Publisher.ended_abandon ..)) (List.cons_ne_self _ _)
  | timeOut j => cases List.head_eq_of_cons_eq (h.symm.trans (Publisher.ended_timeOut ..))
  | serve =>
    refine ⟨rfl, ?_⟩
    by_cases ready : ∃ call, s.publisher.holder = some (.ready call)
    · obtain ⟨⟨j, program⟩, ready⟩ := ready
      obtain ⟨op, newer, result, slot, server, is, service, eq⟩ :=
        sound.serve answer ready
      rw [eq, Publisher.ended_carriedOn] at h
      match result with
      | none => exact absurd h.symm (List.cons_ne_self _ _)
      | some r =>
        cases List.head_eq_of_cons_eq h
        cases is
        exact ⟨op, ready⟩
    · rw [after_serve_of_not_ready fun call h => ready ⟨call, h⟩] at h
      exact absurd h.symm (List.cons_ne_self _ _)

/-- A publication ends well if the last thing on the wire is its confirmation on a prepared channel,
and not else. -/
theorem Ready.ended_ok_iff (ready : s.Ready b) (sound : s.Sound b) {k : Caller} {e : Envelope}
    (next : s.publisher.holder = some (.ready ⟨k, b.publish e⟩))
    (own : (s.after b answer .serve).log.HasOwnChannels) :
    (s.after b answer .serve).publisher.ended = (k, .ok ()) :: s.publisher.ended ↔
      ∃ c newer p, (s.after b answer .serve).log = s.log ++ newer ++
          [⟨.publish c p, some (some .acked)⟩] ∧
        p.Carries b.topology.workQueue e ∧ b.Prepared c (s.log ++ newer) := by
  have is : b.publish e = (Operation.publish e).program b := rfl
  obtain ⟨newer, result, slot, server, service, eq⟩ := after_serve answer next is
  have ended : (s.after b answer .serve).publisher.ended = (k, .ok ()) :: s.publisher.ended ↔
      result = some (.ok ()) := by
    rw [eq, Publisher.ended_carriedOn]
    cases result with
    | none => simp
    | some r => simp
  rw [ended, service.ok_iff]
  rw [eq] at own ⊢
  constructor
  · rintro ⟨front, c, rfl⟩
    rw [← List.append_assoc] at own
    exact ⟨c, front, _, (List.append_assoc ..).symm, Amqp.Publication.carries_iff.2 rfl,
      ready.prepared sound own.of_append (service.published rfl)⟩
  · rintro ⟨c, front, p, log, carries, -⟩
    obtain rfl := Amqp.Publication.carries_iff.1 carries
    rw [List.append_assoc] at log
    exact ⟨front, c, List.append_cancel_left log⟩

/-- A channel is not found closed, and no call ends with an error. -/
structure Flawless (c : ChannelId) (newer : WireLog) (ended : List (Caller × Except Error Unit)) :
    Prop where
  connected : ∀ x ∈ newer, x ≠ ⟨.isOpen c, some false⟩
  succeeded : ∀ r ∈ ended, r.2 = .ok ()

/-- Nothing is asked for but whether a channel is open, and publications on it. -/
def OnlyUses (c : ChannelId) (newer : WireLog) : Prop :=
  ∀ x ∈ newer, x.request = .isOpen c ∨ ∃ p, x.request = .publish c p

theorem OnlyUses.said_eq_nil {newer : WireLog} (h : OnlyUses c newer) : newer.said c = [] := by
  refine List.filterMap_eq_nil_iff.2 fun x hx => ?_
  obtain ⟨request, answer⟩ := x
  rcases h _ hx with rfl | ⟨p, rfl⟩ <;> rfl

/-- What has gone over the wire since an earlier moment, and which calls have ended, the latest
first. -/
structure Since (s s' : Publishing σ) (newer : WireLog)
    (ended : List (Caller × Except Error Unit)) : Prop where
  log : s'.log = s.log ++ newer
  ended : s'.publisher.ended = ended ++ s.publisher.ended

theorem Since.refl : Since s s [] [] := ⟨(List.append_nil _).symm, rfl⟩

theorem Since.trans {s₁ : Publishing σ} {newer newer' : WireLog}
    {ended ended' : List (Caller × Except Error Unit)} (h : Since s s₁ newer ended)
    (h' : Since s₁ s' newer' ended') : Since s s' (newer ++ newer') (ended' ++ ended) where
  log := by rw [h'.log, h.log, List.append_assoc]
  ended := by rw [h'.ended, h.ended, List.append_assoc]

variable (answer) in
theorem Sound.reuses (sound : s.Sound b) (e : PublisherEvent) : ∃ newer ended,
    Since s (s.after b answer e) newer ended ∧
      ∀ c, s.publisher.slot = some c → Flawless c newer ended →
        (s.after b answer e).publisher.slot = some c ∧ OnlyUses c newer := by
  cases e with
  | enter k op =>
    exact ⟨[], [], ⟨Since.refl.log, Publisher.ended_enter ..⟩,
      fun c kept _ => ⟨(Publisher.slot_enter ..).trans kept, nofun⟩⟩
  | abandon k =>
    exact ⟨[], [], ⟨Since.refl.log, Publisher.ended_abandon ..⟩,
      fun c kept _ => ⟨(Publisher.slot_abandon ..).trans kept, nofun⟩⟩
  | timeOut k =>
    refine ⟨[], [_], ⟨Since.refl.log, Publisher.ended_timeOut ..⟩, fun c _ flawless => ?_⟩
    cases flawless.succeeded _ List.mem_cons_self
  | serve =>
    by_cases ready : ∃ call, s.publisher.holder = some (.ready call)
    · obtain ⟨call, ready⟩ := ready
      obtain ⟨op, newer, result, slot, server, is, service, eq⟩ :=
        sound.serve answer ready
      rw [eq]
      refine ⟨newer, _, ⟨rfl, Publisher.ended_carriedOn ..⟩, fun c kept flawless => ?_⟩
      rw [kept] at service
      rw [Publisher.slot_carriedOn]
      refine service.reuses flawless.connected fun r ended => ?_
      exact flawless.succeeded (call.caller, r) (by simp [ended])
    · rw [after_serve_of_not_ready fun call h => ready ⟨call, h⟩]
      exact ⟨[], [], .refl, fun c kept _ => ⟨kept, nofun⟩⟩

theorem Reaches.reuses (run : Reaches b answer permits s s') (sound : s.Sound b) :
    ∃ newer ended, Since s s' newer ended ∧
      ∀ c, s.publisher.slot = some c → Flawless c newer ended →
        s'.publisher.slot = some c ∧ OnlyUses c newer := by
  induction run with
  | refl => exact ⟨[], [], .refl, fun c kept _ => ⟨kept, nofun⟩⟩
  | @step s₁ e run _ ih =>
    obtain ⟨newer, ended, since, goesOn⟩ := ih
    obtain ⟨newer', ended', since', goesOn'⟩ :=
      (run.keeps_sound sound).reuses answer e
    refine ⟨newer ++ newer', ended' ++ ended, since.trans since', fun c kept flawless => ?_⟩
    obtain ⟨kept, uses⟩ := goesOn c kept
      ⟨fun x hx => flawless.connected x (List.mem_append_left _ hx),
        fun r hr => flawless.succeeded r (List.mem_append_right _ hr)⟩
    obtain ⟨kept, uses'⟩ := goesOn' c kept
      ⟨fun x hx => flawless.connected x (List.mem_append_right _ hx),
        fun r hr => flawless.succeeded r (List.mem_append_left _ hr)⟩
    exact ⟨kept, fun x hx => (List.mem_append.1 hx).elim (uses x) (uses' x)⟩

/-- What is in the slot is prepared. Only the caller that has the slot ends well, by going on, and a
publication ends well if its confirmation on a prepared channel was the last thing on the wire, and
not else. As long as it is flawless the channel in the slot stays there, it is all that is used, and
nothing is declared anew. -/
theorem publications_confirmed_on_prepared_channels (b : Remote) (answer : Answering σ) (server : σ)
    (s : Publishing σ) (run : Reaches b answer (fun _ _ => True) { server } s)
    (own : s.log.HasOwnChannels) :
    (∀ c, s.publisher.slot = some c → b.Prepared c s.log) ∧
    (∀ e k, (s.after b answer e).publisher.ended = (k, .ok ()) :: s.publisher.ended →
      e = .serve ∧ ∃ op : Operation, s.publisher.holder = some (.ready ⟨k, op.program b⟩)) ∧
    (∀ k e, s.publisher.holder = some (.ready ⟨k, b.publish e⟩) →
      (s.after b answer .serve).log.HasOwnChannels →
        ((s.after b answer .serve).publisher.ended = (k, .ok ()) :: s.publisher.ended ↔
          ∃ c newer p, (s.after b answer .serve).log = s.log ++ newer ++
              [⟨.publish c p, some (some .acked)⟩] ∧
            p.Carries b.topology.workQueue e ∧ b.Prepared c (s.log ++ newer))) ∧
    ∀ c s' newer ended, s.publisher.slot = some c → Reaches b answer (fun _ _ => True) s s' →
      Since s s' newer ended → Flawless c newer ended →
        s'.publisher.slot = some c ∧ OnlyUses c newer ∧ b.Prepared c s'.log := by
  have sound := run.sound
  have ready := run.ready own
  refine ⟨ready, fun e k => sound.of_ended_ok,
    fun k e next own' => ready.ended_ok_iff sound next own',
    fun c s' newer ended kept run' since flawless => ?_⟩
  obtain ⟨newer', ended', since', goesOn⟩ := run'.reuses sound
  obtain rfl : newer' = newer := List.append_cancel_left (since'.log.symm.trans since.log)
  obtain rfl : ended' = ended := List.append_cancel_right (since'.ended.symm.trans since.ended)
  obtain ⟨kept', uses⟩ := goesOn c kept flawless
  exact ⟨kept', uses, since.log ▸ (ready c kept).append uses.said_eq_nil⟩

/-- A server that confirms one publication and then falls silent on that connection. -/
def fading : Publishing BrokerServer where
  server := { host := "broker", port := 5672, plans := [{ publications := [.ack, .fallsSilent] }] }

def nearby : Remote := ⟨some ⟨"broker", 5672, "guest", "guest", "/"⟩, {}, Span.seconds 5⟩

/-- The publication of the greeting. -/
def announce : Operation := .publish (.ofEvent .greeting .greeting ⟨2026, 1, 1, 0, 0, 0, 0⟩)

/-- The topology is declared, the greeting published and the health checked, all on one channel. -/
theorem publications_confirmed_on_prepared_channels_of_greeting :
    ∃ s s' : Publishing BrokerServer,
      Reaches nearby BrokerServer.answer (fun _ _ => True) fading s ∧
      Reaches nearby BrokerServer.answer (fun _ _ => True) s s' ∧
      nearby.Prepared 0 s.log ∧
      (∃ c newer p, (s.after nearby BrokerServer.answer .serve).log = s.log ++ newer ++
          [⟨.publish c p, some (some .acked)⟩] ∧
        p.Carries nearby.topology.workQueue
          (.ofEvent .greeting .greeting ⟨2026, 1, 1, 0, 0, 0, 0⟩) ∧
        nearby.Prepared c (s.log ++ newer)) ∧
      s'.publisher.slot = some 0 ∧
      s'.publisher.ended = [(2, .ok ()), (1, .ok ()), (0, .ok ())] ∧
      OnlyUses 0 (s'.log.drop s.log.length) ∧ nearby.Prepared 0 s'.log ∧
      s'.log.said 0 =
        [(.openChannel, some true), (.selectConfirms, some true),
         (.declareExchange "ai_tasks_dlx" "direct", some true),
         (.declareQueue "ai_tasks_dlq" [], some true),
         (.bindQueue "ai_tasks_dlq" "ai_tasks_dlx" "ai_tasks_dlq", some true),
         (.declareQueue "ai_tasks_queue" [("x-dead-letter-exchange", "ai_tasks_dlx"),
           ("x-dead-letter-routing-key", "ai_tasks_dlq")], some true)] ∧
      s'.log.filterMap (fun x => match x with
        | ⟨.publish c p, some (some .acked)⟩ => some (c, p.routingKey, p.correlationId,
            (Envelope.ofBytes p.body).toOption.map (·.content))
        | _ => none) = [(0, "ai_tasks_queue", "42", some "hi")] := by
  let s := fading.play nearby BrokerServer.answer
    [.enter 0 .ensureTopology, .serve, .enter 1 announce]
  let s' := s.play nearby BrokerServer.answer [.serve, .enter 2 .checkHealth, .serve]
  have run : Reaches nearby BrokerServer.answer (fun _ _ => True) fading s :=
    .play .refl ⟨trivial, trivial, trivial, trivial⟩
  have run' : Reaches nearby BrokerServer.answer (fun _ _ => True) s s' :=
    .play .refl ⟨trivial, trivial, trivial, trivial⟩
  have own : s.log.HasOwnChannels := by
    unfold WireLog.HasOwnChannels
    decide +kernel
  have own' : (s.after nearby BrokerServer.answer .serve).log.HasOwnChannels := by
    unfold WireLog.HasOwnChannels
    decide +kernel
  have since : Since s s' (s'.log.drop s.log.length) [(2, .ok ()), (1, .ok ())] := by
    constructor <;> decide +kernel
  have flawless : Flawless 0 (s'.log.drop s.log.length) [(2, .ok ()), (1, .ok ())] := by
    constructor <;> decide +kernel
  obtain ⟨prepared, -, publishes, reuses⟩ :=
    publications_confirmed_on_prepared_channels nearby BrokerServer.answer fading.server s run own
  have kept : s.publisher.slot = some 0 := by decide +kernel
  have ended : (s.after nearby BrokerServer.answer .serve).publisher.ended =
      (1, .ok ()) :: s.publisher.ended := by decide +kernel
  obtain ⟨kept', uses, prepared'⟩ := reuses 0 s' _ _ kept run' since flawless
  exact ⟨s, s', run, run', prepared 0 kept, (publishes 1 _ rfl own').1 ended, kept',
    by decide +kernel, uses, prepared', prepared'.said, by decide +kernel⟩

end Publishing
end ReplyPipeline.Broker
