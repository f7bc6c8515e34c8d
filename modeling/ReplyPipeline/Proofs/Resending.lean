import ReplyPipeline.Proofs.LiveCopies
import ReplyPipeline.Proofs.Playing
import ReplyPipeline.Proofs.StoreService

/-!
# Sending an event again

Three kinds of calls give a task up: an intake that could not enqueue it, a handling that rejected
it, and a handling that rejected a message without an envelope. Each removes the lock, under an id
that it got in a way of its own: from the event, from the envelope, or from beside the body. The
lock of the task is gone by the end of each of them if the store answers every call in time, and an
event of the same id is accepted then, however the id is spelled there
(`Idempotency.failed_event_accepted_again`).
-/
namespace ReplyPipeline

/-- A program that keeps a code ends in a standing that fits its result. What each answer keeps true
between the standing and the surroundings is true there. -/
theorem Code.Binds.carryOut {σ α : Type} {c : Code σ} {ends : σ → α → Prop}
    {ask : (r : PipelineRequest) → World → Option (r.Answer × World)} {holds : σ → World → Prop}
    (keeps : ∀ {s : σ} {r : PipelineRequest} {a : r.Answer} {w w' : World}, holds s w →
      c.allows s r → ask r w = some (a, w') → holds (c.after s ⟨r, a⟩) w')
    {p : Action α} {s : σ} {a : α} {w w' : World} (bound : c.Binds ends s p) (start : holds s w)
    (run : p.carryOut ask w = some (a, w')) : ∃ s', ends s' a ∧ holds s' w' := by
  induction p generalizing s w with
  | done b =>
    cases run
    exact ⟨s, bound, start⟩
  | call r next ih =>
    obtain ⟨⟨b, w₁⟩, answered, rest⟩ := Option.bind_eq_some_iff.1 run
    exact ih b (bound.2 b) (keeps start bound.1 answered) rest

/-- Keeps in mind that a key has been removed, until something is put into the store. The store is
called within a limit only. -/
def clearing (key : String) (limit : Span) : Code Bool where
  after freed y :=
    match y.request with
    | .store (.delete k) _ => k == key || freed
    | .store (.set ..) _ => false
    | .store (.setIfAbsent ..) _ => false
    | _ => freed
  allows _ r :=
    match r with
    | .store _ bound => bound = some limit
    | _ => True

/-- The store serves, and a key that is known to be free is free. -/
def World.Clear (w : World) (key : String) (limit : Span) (freed : Bool) : Prop :=
  w.StoreServes limit ∧ (freed = true → w.store.Lacks key w.now)

theorem World.Clear.ask {key : String} {limit : Span} {declaring : Nat} {freed : Bool}
    {r : PipelineRequest} {a : r.Answer} {w w' : World} (h : w.Clear key limit freed)
    (allowed : (clearing key limit).allows freed r)
    (answered : World.ask declaring r w = some (a, w')) :
    w'.Clear key limit ((clearing key limit).after freed ⟨r, a⟩) := by
  obtain ⟨serves, free⟩ := h
  have other (h : ∀ c bound, r ≠ .store c bound)
      (same : (clearing key limit).after freed ⟨r, a⟩ = freed) :
      w'.Clear key limit ((clearing key limit).after freed ⟨r, a⟩) := by
    have kept := keepsStore_of_ask h answered
    rw [same]
    exact ⟨serves.of_kept kept, fun known => kept.lacks (free known)⟩
  cases r with
  | store c bound =>
    obtain rfl : bound = some limit := allowed
    have served : (some (_, _) : Option (Except Store.Error c.Answer × World)) = some (a, w') :=
      (ask_store_within serves c).symm.trans answered
    obtain ⟨-, rfl⟩ := Prod.mk.inj (Option.some.inj served)
    refine ⟨serves.afterServed c, fun known => ?_⟩
    cases c with
    | delete k =>
      rcases (Bool.or_eq_true _ _).mp known with same | known
      · obtain rfl := beq_iff_eq.1 same
        exact w.lacks_afterServed_delete k
      · exact lacks_afterServed (free known) rfl
    | contains k => exact lacks_afterServed (free known) rfl
    | get k => exact lacks_afterServed (free known) rfl
    | ping => exact lacks_afterServed (free known) rfl
    | set k value ttl => cases known
    | setIfAbsent k value ttl => cases known
  | _ => exact other nofun rfl

namespace Gateway

variable (g : Gateway) (c : CorrelationId)

/-- The code under which the gateway removes the lock of an id. -/
def clears : Code Bool := clearing (g.idempotency.lockKey c) g.idempotency.limit

/-- An intake of the task that has failed has removed the lock. -/
def Frees (freed : Bool) (a : GatewayAnswer) : Prop := a = .failed c → freed = true

theorem clears_enqueue (e : Envelope) (freed : Bool) :
    (g.clears c).Binds (fun _ _ => True) freed (g.enqueue e) := by
  refine ⟨trivial, fun now => ⟨trivial, fun declared => ?_⟩⟩
  match declared with
  | none => exact trivial
  | some (.error _) => exact trivial
  | some (.ok ()) =>
    refine ⟨trivial, fun published => ?_⟩
    match published with
    | none => exact trivial
    | some _ => exact trivial

theorem clears_submit (event : Event) (id : CorrelationId) (freed : Bool) :
    (g.clears c).Binds (Frees c) freed (g.submit event id) := by
  refine ⟨trivial, fun instant => ?_⟩
  refine (Code.binds_bind (g.enqueue (.ofEvent event id instant)) _ _).2 ?_
  refine (g.clears_enqueue c _ _).mono fun freed outcome _ => ?_
  match outcome with
  | .ok () => exact nofun
  | .error _ =>
    refine ⟨rfl, fun _ failed => ?_⟩
    cases failed
    exact (Bool.or_eq_true _ _).mpr (.inl (beq_self_eq_true _))

theorem clears_handle (event : Event) :
    (g.clears c).Binds (Frees c) false (g.handle event) := by
  unfold handle
  match g.filter.rejection? event, event.correlationId? with
  | some r, _ => exact nofun
  | none, none => exact nofun
  | none, some id =>
    have lock : (g.clears c).Binds (Frees c) false
        ((g.idempotency.tryLock id).bind fun l =>
          if l.mayProceed then g.submit event id else .done (.inProgress id)) := by
      refine ⟨rfl, fun taken => ?_⟩
      match taken with
      | .ok true => exact g.clears_submit c event id _
      | .ok false => exact nofun
      | .error _ => exact g.clears_submit c event id _
    refine ⟨rfl, fun found => ?_⟩
    match found with
    | .ok true => exact nofun
    | .ok false => exact lock
    | .error _ => exact lock

end Gateway

namespace TaskHandler

variable (x : TaskHandler) (c : CorrelationId) (d : Broker.Delivery)

/-- The code under which a worker removes the lock of an id. -/
def clears : Code Bool := clearing (x.idempotency.lockKey c) x.idempotency.limit

/-- What a handling that gave its task up has removed: the lock of the envelope's id, or else of the
id beside the body. -/
def Frees (freed : Bool) : DeliveryOutcome → Prop
  | .deadLettered _ =>
    ∃ e, Envelope.ofBytes d.message.body = .ok e ∧ (e.correlationId = c → freed = true)
  | .malformed =>
    ∀ t, d.message.correlationId = some t → CorrelationId.ofText t = .ok c → freed = true
  | _ => True

theorem clears_giveUp {e : Envelope} (decoded : Envelope.ofBytes d.message.body = .ok e)
    (freed : Bool) (attempts : UInt32) :
    (x.clears c).Binds (Frees c d) freed (x.giveUp d e.correlationId attempts) := by
  refine ⟨trivial, fun _ => ⟨rfl, fun _ => ⟨trivial, fun _ => ⟨e, decoded, ?_⟩⟩⟩⟩
  rintro rfl
  exact (Bool.or_eq_true _ _).mpr (.inl (beq_self_eq_true _))

theorem clears_fail {e : Envelope} (decoded : Envelope.ofBytes d.message.body = .ok e)
    (freed : Bool) : (x.clears c).Binds (Frees c d) freed (x.fail d e) := by
  unfold fail
  match x.retry.decide (Envelope.saturatingSucc e.attempts) with
  | .giveUp attempts => exact x.clears_giveUp c d decoded freed attempts
  | .retry attempt delay =>
    refine ⟨trivial, fun _ => ⟨trivial, fun published => ?_⟩⟩
    match published with
    | none => exact x.clears_giveUp c d decoded freed attempt
    | some (.error _) => exact x.clears_giveUp c d decoded freed attempt
    | some (.ok ()) => exact ⟨trivial, fun _ => ⟨trivial, fun _ => trivial⟩⟩

theorem clears_discard (freed : Bool) :
    (x.clears c).Binds (Frees c d) freed (x.discard d) := by
  refine ⟨trivial, fun _ => ?_⟩
  match beside : d.message.correlationId.map CorrelationId.ofText with
  | none =>
    refine ⟨trivial, fun _ t ht hc => ?_⟩
    rw [ht] at beside
    cases beside
  | some (.error _) =>
    refine ⟨trivial, fun _ t ht hc => ?_⟩
    rw [ht, Option.map_some, hc] at beside
    cases beside
  | some (.ok id) =>
    refine ⟨rfl, fun _ => ⟨trivial, fun _ t ht hc => ?_⟩⟩
    rw [ht, Option.map_some, hc] at beside
    cases beside
    exact (Bool.or_eq_true _ _).mpr (.inl (beq_self_eq_true _))

theorem clears_attempt (e : Envelope) (freed : Bool) :
    (x.clears c).Binds (fun _ _ => True) freed (x.attempt e) := by
  refine ⟨trivial, fun outcome => ?_⟩
  match outcome with
  | .failed _ => exact trivial
  | .panicked _ => exact trivial
  | .tooLate => exact trivial
  | .reply text =>
    change (x.clears c).Binds _ _ (post e text)
    unfold post
    match e.responseMode.delivery? with
    | none => exact trivial
    | some isPrivate => exact ⟨trivial, fun _ => trivial⟩

theorem clears_handle : (x.clears c).Binds (Frees c d) false (x.handle d) := by
  refine ⟨trivial, fun _ => ?_⟩
  match decoded : Envelope.ofBytes d.message.body with
  | .error _ => exact x.clears_discard c d false
  | .ok e =>
    refine (Code.binds_bind (x.attempt e) _ _).2 ((x.clears_attempt c e _).mono ?_)
    intro freed result _
    match result with
    | .ok () => exact ⟨rfl, fun _ => ⟨trivial, fun _ => ⟨trivial, fun _ => trivial⟩⟩⟩
    | .error _ => exact x.clears_fail c d decoded freed

end TaskHandler

namespace Gateway

variable (g : Gateway) (declaring : Nat) {event : Event} {id : CorrelationId} {w : World}

/-- An event whose task is neither completed nor under way is accepted if it can be enqueued. -/
theorem carryOut_accept_of_free (serves : w.StoreServes g.idempotency.limit)
    (unmarked : w.store.Lacks (g.idempotency.markerKey id) w.now)
    (free : w.store.Lacks (g.idempotency.lockKey id) w.now)
    (enqueues : w.Enqueues declaring g.enqueueLimit) :
    ∃ w', (g.accept event id).carryOut (World.ask declaring) w =
      some (.accepted id event.tenant event.conversationId, w') := by
  let look : Store.Call := .contains (g.idempotency.markerKey id)
  let lock : Store.Call :=
    .setIfAbsent (g.idempotency.lockKey id) Idempotency.lockValue g.idempotency.lockTtl
  let w₁ := w.afterServed look
  let w₂ := w₁.afterServed lock
  have looked : (g.idempotency.isProcessed id).carryOut (World.ask declaring) w =
      some (false, w₁) := by
    have absent : (w.store.perform w.served look).1 = false :=
      (unmarked.mono (Nat.le_add_right _ _)).contains
    refine (Program.carryOut_call (World.ask_store_within serves look)).trans ?_
    rw [absent]
    rfl
  have locked : (g.idempotency.tryLock id).carryOut (World.ask declaring) w₁ =
      some (.acquired, w₂) := by
    have free₁ : w₁.store.Lacks (g.idempotency.lockKey id) w₁.now :=
      World.lacks_afterServed free rfl
    have taken : (w₁.store.perform w₁.served lock).1 = true :=
      (free₁.mono (Nat.le_add_right _ _)).setIfAbsent _ _
    refine (Program.carryOut_call
      (World.ask_store_within (serves.afterServed look) lock)).trans ?_
    rw [taken]
    rfl
  have enqueues₂ : w₂.Enqueues declaring g.enqueueLimit :=
    (World.enqueues_congr declaring w w₂ rfl rfl rfl _).2 enqueues
  let task := Envelope.ofEvent event id w.wallClock
  have clock : Action.wallClock.carryOut (World.ask declaring) w₂ = some (w.wallClock, w₂) := rfl
  rcases g.carryOut_enqueue declaring task w₂ with ⟨-, outcome⟩ | ⟨fails, -⟩
  · exact ⟨_, (g.carryOut_accept_of_unmarked event looked locked).trans
      ((Program.carryOut_bind_of clock).trans
        (Program.carryOut_bind_of (p := g.enqueue task) outcome))⟩
  · exact absurd enqueues₂ fails

end Gateway

/-- A message carries the task of an id: its envelope has the id, or it was published for it. -/
inductive Broker.Message.Carries (c : CorrelationId) (m : Broker.Message) : Prop
  | decoded {e : Envelope} : Envelope.ofBytes m.body = .ok e → e.correlationId = c → Carries c m
  | published : m.IsTask → m.isAbout c = true → Carries c m

theorem Broker.Message.Carries.correlationId_eq {c : CorrelationId} {m : Broker.Message}
    {e : Envelope} (h : m.Carries c) (decoded : Envelope.ofBytes m.body = .ok e) :
    e.correlationId = c := by
  cases h with
  | decoded same id_eq => cases same.symm.trans decoded; exact id_eq
  | published task about =>
    have beside := (task.correlationId_eq decoded).symm.trans (of_decide_eq_true about)
    exact Idempotency.text_injective (Option.some.inj beside)

/-- A message id names a correlation id: by its digits, or by a text with blank ends or without. -/
def MessageId.Spells (c : CorrelationId) : MessageId → Prop
  | .number n => Decimal.showInt n.toInt = c.text
  | .text s => Text.trim s = c.text

theorem CorrelationId.ofText_eq_ok_of_trim {s : String} {c : CorrelationId}
    (h : Text.trim s = c.text) : ofText s = .ok c := by
  rw [ofText, dif_neg (h ▸ c.ne_empty)]
  exact congrArg Except.ok (Idempotency.text_injective h)

theorem MessageId.Spells.correlationId?_eq {c : CorrelationId} {m : MessageId} (h : m.Spells c) :
    m.correlationId? = some c := by
  cases m with
  | number n =>
    have trimmed : Text.trim (Decimal.showInt n.toInt) = c.text :=
      (congrArg Text.trim h).trans c.trim_text
    rw [correlationId?, CorrelationId.ofText_eq_ok_of_trim trimmed]
    rfl
  | text s =>
    rw [correlationId?, CorrelationId.ofText_eq_ok_of_trim h]
    rfl

namespace Idempotency

variable {s : Idempotency} {c : CorrelationId} {w w' : World}

/-- A call that gave a task up, from the world before it to the world after it. -/
inductive FailedCall (s : Idempotency) (c : CorrelationId) (w w' : World) : Prop
  /-- The gateway answered an event of the id that it had failed. -/
  | intake {g : Gateway} {event : Event} {declaring : Nat} : g.idempotency = s →
      (g.handle event).carryOut (World.ask declaring) w = some (.failed c, w') →
      FailedCall s c w w'
  /-- A worker gave the task up. -/
  | handling {x : TaskHandler} {d : Broker.Delivery} {declaring : Nat} {attempts : UInt32} :
      x.idempotency = s → d.message.Carries c →
      (x.handle d).carryOut (World.ask declaring) w = some (.deadLettered attempts, w') →
      FailedCall s c w w'
  /-- A worker refused a message without an envelope, beside which the id travels. -/
  | refusal {x : TaskHandler} {d : Broker.Delivery} {declaring : Nat} {t : String} :
      x.idempotency = s → d.message.correlationId = some t → CorrelationId.ofText t = .ok c →
      (x.handle d).carryOut (World.ask declaring) w = some (.malformed, w') →
      FailedCall s c w w'

theorem FailedCall.lacks (served : w.StoreServes s.limit) (h : s.FailedCall c w w') :
    w'.store.Lacks (s.lockKey c) w'.now := by
  have start : w.Clear (s.lockKey c) s.limit false := ⟨served, nofun⟩
  cases h with
  | @intake g event declaring same run =>
    subst same
    obtain ⟨freed, frees, -, free⟩ := (g.clears_handle c event).carryOut World.Clear.ask start run
    exact free (frees rfl)
  | @handling x d declaring attempts same carries run =>
    subst same
    obtain ⟨freed, ⟨e, decoded, frees⟩, -, free⟩ :=
      (x.clears_handle c d).carryOut World.Clear.ask start run
    exact free (frees (carries.correlationId_eq decoded))
  | @refusal x d declaring t same beside named run =>
    subst same
    obtain ⟨freed, frees, -, free⟩ := (x.clears_handle c d).carryOut World.Clear.ask start run
    exact free (frees t beside named)

/-- The lock of a task that has been given up is gone, and as long as nobody else does anything an
event of its id is accepted, if the task is not completed and can be enqueued. -/
theorem failed_event_accepted_again (served : w.StoreServes s.limit)
    (failed : s.FailedCall c w w') :
    ¬ w'.Holds (s.lockKey c) ∧
      ∀ (g : Gateway) (event : Event) (m : MessageId) (w₂ : World) (declaring : Nat),
        g.idempotency = s → w'.Drifts w₂ → w₂.StoreServes s.limit → ¬ w₂.Holds (s.markerKey c) →
        w₂.Enqueues declaring g.enqueueLimit → g.filter.rejection? event = none →
        event.id = some m → m.Spells c →
          ∃ w₃, (g.handle event).carryOut (World.ask declaring) w₂ =
            some (.accepted c event.tenant event.conversationId, w₃) := by
  have lacks := failed.lacks served
  refine ⟨World.not_holds_iff.2 lacks, ?_⟩
  intro g event m w₂ declaring same drift serves unmarked enqueues passes id_eq spells
  subst same
  have named : event.correlationId? = some c := by
    rw [Event.correlationId?, id_eq]
    exact spells.correlationId?_eq
  have handles : g.handle event = g.accept event c := by
    unfold Gateway.handle
    rw [passes, named]
  have store_eq : w₂.store = w'.store := congrArg Record.store drift.2
  have free : w₂.store.Lacks (g.idempotency.lockKey c) w₂.now := store_eq ▸ lacks.mono drift.1
  rw [handles]
  exact g.carryOut_accept_of_free declaring serves (World.not_holds_iff.1 unmarked) free enqueues

/-- The greeting under the same id, spelled as a text with blank ends. -/
def paddedGreeting : Event := { Event.greeting with id := some (.text " 42\n") }

/-- A world in which the next attempt fails. -/
def unlucky : World :=
  { Traffic.quiet.world with
    script := [{ finish := fun _ => .failed (.failed "boom") }]
    storeLatency := Span.seconds 1 }

def onceOnly : TaskHandler := { retry := ⟨1, Span.seconds 5, none⟩ }

/-- The greeting is enqueued and given up, and accepted again under a spelling of its own. -/
theorem failed_event_accepted_again_of_padding :
    ∃ w w', w.StoreServes (Span.seconds 2) ∧ FailedCall {} .greeting w w' ∧
      w.Holds (Idempotency.lockKey {} .greeting) ∧
      ¬ w'.Holds (Idempotency.lockKey {} .greeting) ∧
      ∃ w₃, (Gateway.handle {} paddedGreeting).carryOut (World.ask 0) w' =
        some (.accepted .greeting 0 0, w₃) := by
  have played : ((Gateway.handle {} .greeting).carryOut (World.ask 0) unlucky).any fun r =>
      (r.2.broker.take none).any fun t =>
        let w : World := { r.2 with broker := t.2 }
        (Envelope.ofBytes t.1.message.body).toOption.any (·.correlationId == .greeting) &&
        decide (w.storeFailing = false ∧ w.storeLatency = Span.seconds 1 ∧
          w.Holds (Idempotency.lockKey {} .greeting)) &&
        ((onceOnly.handle t.1).carryOut (World.ask 0) w).any fun r' =>
          r'.1 == .deadLettered 1 &&
          decide (r'.2.storeFailing = false ∧ r'.2.storeLatency = Span.seconds 1 ∧
            ¬ r'.2.Holds (Idempotency.markerKey {} .greeting) ∧
            (r'.2.useFault .topology).1 = false ∧ (r'.2.useFault .publish).1 = false ∧
            r'.2.publishFailing = false ∧ r'.2.publishLatency = Span.zero) := by
    decide +kernel
  obtain ⟨⟨_, w₁⟩, -, played⟩ := (Option.any_eq_true ..).1 played
  obtain ⟨⟨d, b⟩, -, played⟩ := (Option.any_eq_true ..).1 played
  obtain ⟨before, played⟩ := (Bool.and_eq_true_iff ..).1 played
  obtain ⟨decoded, before⟩ := (Bool.and_eq_true_iff ..).1 before
  obtain ⟨⟨outcome, w'⟩, run, after⟩ := (Option.any_eq_true ..).1 played
  obtain ⟨rfl, after⟩ := ((Bool.and_eq_true_iff ..).1 after).imp_left beq_iff_eq.1
  obtain ⟨up, slow, held⟩ := of_decide_eq_true before
  obtain ⟨up', slow', unmarked, declared, confirmed, delivered, prompt⟩ := of_decide_eq_true after
  obtain ⟨e, decoded, same⟩ := (Option.any_eq_true ..).1 decoded
  have inTime : World.duration (Span.seconds 1) ≤ World.duration (Span.seconds 2) := by
    decide +kernel
  have serves : { w₁ with broker := b }.StoreServes (Span.seconds 2) := ⟨up, slow ▸ inTime⟩
  have failed : FailedCall {} .greeting { w₁ with broker := b } w' :=
    .handling rfl (.decoded (Json.eq_ok_of_toOption decoded) (beq_iff_eq.1 same)) run
  obtain ⟨free, again⟩ := failed_event_accepted_again (s := {}) serves failed
  refine ⟨_, w', serves, failed, held, free, ?_⟩
  exact again {} paddedGreeting (.text " 42\n") w' 0 rfl ⟨Nat.le_refl _, rfl⟩
    ⟨up', slow' ▸ inTime⟩ unmarked
    ⟨declared, confirmed, delivered, by rw [prompt]; decide +kernel⟩ (by decide +kernel) rfl
    (by unfold MessageId.Spells; decide +kernel)

end Idempotency
end ReplyPipeline
