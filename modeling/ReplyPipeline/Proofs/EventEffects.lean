import ReplyPipeline.Http.Service
import ReplyPipeline.Proofs.Alone
import ReplyPipeline.Proofs.Entries
import ReplyPipeline.Proofs.PublishedTask
import ReplyPipeline.Proofs.Surroundings

/-!
# What one delivery of an event does

The whole effect of a delivery that nobody disturbs, where the store answers every call at once and
the broker may be slow or fail in any way. The state of the store and of the broker decides which of
the answers is given, and with it what has changed (`Gateway.Outcome`). Nothing has changed but by
an accepted event, apart from entries that were expired and declarations of the topology.
-/
namespace ReplyPipeline

namespace World

variable (declaring : Nat) {w : World}

/-- The store answers every call at once. -/
structure StoreAnswers (w : World) : Prop where
  up : w.storeFailing = false
  prompt : duration w.storeLatency = 0

/-- A key has an entry that has not expired. -/
def Holds (w : World) (key : String) : Prop := (w.store.peek w.now key).isSome = true

instance (w : World) (key : String) : Decidable (w.Holds key) := inferInstanceAs (Decidable (_ = _))

theorem holds_iff (w : World) (key : String) :
    w.Holds key ↔ ((w.store.purge w.now).find? key).isSome = true := by
  rw [Holds, Store.Memory.peek, Option.isSome_map]

/-- The topology is declared and a task published, both without a failure and within a limit. -/
structure Enqueues (declaring : Nat) (limit : Span) (w : World) : Prop where
  declared : (w.useFault .topology).1 = false
  confirmed : (w.useFault .publish).1 = false
  delivered : w.publishFailing = false
  timely : declaring + duration w.publishLatency ≤ limit.nanos

theorem useFault_congr (w w' : World) (h : w'.faults = w.faults) (p : FaultPoint) :
    (w'.useFault p).1 = (w.useFault p).1 := by
  unfold useFault
  rw [h]
  split <;> rfl

theorem enqueues_congr (w w' : World) (faults : w'.faults = w.faults)
    (failing : w'.publishFailing = w.publishFailing)
    (latency : w'.publishLatency = w.publishLatency) (limit : Span) :
    w'.Enqueues declaring limit ↔ w.Enqueues declaring limit := by
  have same := useFault_congr w w' faults
  constructor
  · intro h
    exact ⟨(same _).symm.trans h.declared, (same _).symm.trans h.confirmed,
      failing.symm.trans h.delivered, latency ▸ h.timely⟩
  · intro h
    exact ⟨(same _).trans h.declared, (same _).trans h.confirmed, failing.trans h.delivered,
      latency ▸ h.timely⟩

theorem enqueues_store (w : World) (m : Store.Memory) (limit : Span) :
    { w with store := m }.Enqueues declaring limit ↔ w.Enqueues declaring limit :=
  enqueues_congr declaring w { w with store := m } rfl rfl rfl limit

theorem ask_store (h : w.StoreAnswers) (c : Store.Call) (limit : Option Span) :
    ask declaring (.store c limit) w =
      some (.ok (w.store.perform w.now c).1, { w with store := (w.store.perform w.now c).2 }) := by
  have atOnce : w.callStore c limit = .atOnce _ := if_pos h.prompt
  change (w.callStore c limit).await w = _
  rw [atOnce, Wait.await_atOnce, if_neg (by simp [h.up])]
  rfl

theorem useFault_snd (w : World) (p : FaultPoint) :
    (w.useFault p).2 = { w with faults := (w.useFault p).2.faults } := by
  unfold useFault
  split <;> rfl

theorem declareTopology_of_false (h : (w.useFault .topology).1 = false) :
    w.declareTopology = (.ok (), { w with broker := w.broker.declare }) := by
  rw [declareTopology, useFault_of_false h]

theorem declareTopology_of_true (h : (w.useFault .topology).1 = true) :
    w.declareTopology = (.error (.topology "injected"), (w.useFault .topology).2) := by
  have hit : w.useFault .topology = (true, (w.useFault .topology).2) := Prod.ext h rfl
  rw [declareTopology, hit]

theorem ask_declareTopology {deadline : Moment} (ahead : w.now ≤ deadline) :
    ask declaring (.declareTopology (some deadline)) w =
      some (if w.now + declaring ≤ deadline then
          (some (w.wait (w.now + declaring)).declareTopology.1,
            (w.wait (w.now + declaring)).declareTopology.2)
        else (none, w.wait deadline)) :=
  await_taking w declaring _ _ ahead

theorem ask_publish {deadline : Moment} (ahead : w.now ≤ deadline) (e : Envelope)
    (confirmed : (w.useFault .publish).1 = false) :
    ask declaring (.publish e (some deadline)) w =
      some (if w.now + duration w.publishLatency ≤ deadline then
          (some (deliver e (w.wait (w.now + duration w.publishLatency))).1,
            (deliver e (w.wait (w.now + duration w.publishLatency))).2)
        else (none, w.wait deadline)) := by
  change (w.publish e (some deadline)).2.await (w.publish e (some deadline)).1 = _
  rw [publish, useFault_of_false confirmed]
  exact await_taking w _ _ _ ahead

theorem ask_publish_of_fault (deadline : Moment) (e : Envelope)
    (refused : (w.useFault .publish).1 = true) :
    ask declaring (.publish e (some deadline)) w =
      some (some (.error .nacked), (w.useFault .publish).2) := by
  change (w.publish e (some deadline)).2.await (w.publish e (some deadline)).1 = _
  have hit : w.useFault .publish = (true, (w.useFault .publish).2) := Prod.ext refused rfl
  rw [publish, hit]
  rfl

end World

namespace Idempotency

variable (declaring : Nat) {w : World}

theorem carryOut_isProcessed (s : Idempotency) (id : CorrelationId) (answers : w.StoreAnswers) :
    (s.isProcessed id).carryOut (World.ask declaring) w =
      some (decide (w.Holds (s.markerKey id)), { w with store := w.store.purge w.now }) := by
  refine (Program.carryOut_call (World.ask_store declaring answers _ _)).trans ?_
  have found : (w.store.perform w.now (.contains (s.markerKey id))).1 =
      decide (w.Holds (s.markerKey id)) :=
    Bool.eq_iff_iff.2 ((w.holds_iff _).symm.trans decide_eq_true_iff.symm)
  rw [found]
  rfl

theorem carryOut_tryLock (s : Idempotency) (id : CorrelationId) (answers : w.StoreAnswers) :
    (s.tryLock id).carryOut (World.ask declaring) w =
      if w.Holds (s.lockKey id) then some (.alreadyHeld, { w with store := w.store.purge w.now })
      else some (.acquired, { w with
        store := (w.store.purge w.now).insert (s.lockKey id)
          ⟨lockValue, w.now + s.lockTtl.nanos⟩ }) := by
  refine (Program.carryOut_call (World.ask_store declaring answers _ _)).trans ?_
  simp only [Store.Memory.perform, World.holds_iff]
  split <;> rfl

theorem carryOut_releaseLock (s : Idempotency) (id : CorrelationId) (answers : w.StoreAnswers) :
    (s.releaseLock id).carryOut (World.ask declaring) w =
      some (.ok (), { w with store := (w.store.purge w.now).erase (s.lockKey id) }) :=
  Program.carryOut_call (World.ask_store declaring answers _ _)

end Idempotency

namespace Gateway

section Parts

variable {σ : Type} {ask : (r : PipelineRequest) → σ → Option (r.Answer × σ)} {s s₁ s₂ : σ}

theorem carryOut_accept_of_marked (g : Gateway) (event : Event) {id : CorrelationId}
    (look : (g.idempotency.isProcessed id).carryOut ask s = some (true, s₁)) :
    (g.accept event id).carryOut ask s = some (.duplicate id, s₁) :=
  Program.carryOut_bind_of look

/-- Where no marker is found the lock decides whether the task is submitted. -/
theorem carryOut_accept_of_unmarked (g : Gateway) (event : Event) {id : CorrelationId}
    {l : LockAttempt}
    (look : (g.idempotency.isProcessed id).carryOut ask s = some (false, s₁))
    (tried : (g.idempotency.tryLock id).carryOut ask s₁ = some (l, s₂)) :
    (g.accept event id).carryOut ask s =
      if l.mayProceed then (g.submit event id).carryOut ask s₂ else some (.inProgress id, s₂) := by
  refine (Program.carryOut_bind_of look).trans ((Program.carryOut_bind_of tried).trans ?_)
  split <;> rfl

end Parts

variable (declaring : Nat) {w : World}

/-- The second half of enqueueing. -/
def publishBy (g : Gateway) (e : Envelope) (deadline : Moment) :
    Action (Except Broker.Error Unit) := do
  match ← Action.publish e (some deadline) with
  | some outcome => return outcome
  | none => return .error (.timeout g.enqueueLimit)

/-- What a publication comes to: the task is in the queue at the end, or there is a failure by the
deadline at the latest and the broker is as before. -/
theorem carryOut_publishBy (g : Gateway) (e : Envelope) {deadline : Moment}
    (ahead : w.now ≤ deadline) :
    ((w.useFault .publish).1 = false ∧ w.publishFailing = false ∧
        w.now + World.duration w.publishLatency ≤ deadline ∧
        (g.publishBy e deadline).carryOut (World.ask declaring) w = some (.ok (), { w with
          now := w.now + World.duration w.publishLatency
          broker := w.broker.push (.ofEnvelope e) })) ∨
      ¬ ((w.useFault .publish).1 = false ∧ w.publishFailing = false ∧
        w.now + World.duration w.publishLatency ≤ deadline) ∧ ∃ cause now faults,
        (g.publishBy e deadline).carryOut (World.ask declaring) w =
          some (.error cause, { w with now := now, faults := faults }) ∧
        w.now ≤ now ∧ now ≤ deadline := by
  have run {a : Option (Except Broker.Error Unit)} {w₁ : World}
      (h : World.ask declaring (.publish e (some deadline)) w = some (a, w₁)) :
      (g.publishBy e deadline).carryOut (World.ask declaring) w = _ := Program.carryOut_call h
  by_cases confirmed : (w.useFault .publish).1 = false
  · have publication := World.ask_publish declaring ahead e confirmed
    by_cases timely : w.now + World.duration w.publishLatency ≤ deadline
    · rw [if_pos timely, World.wait_of_ge (Nat.le_add_right _ _)] at publication
      by_cases failing : w.publishFailing = true
      · rw [World.deliver, if_pos failing] at publication
        exact .inr ⟨fun h => by simp [failing] at h, _, _, w.faults,
          run publication, Nat.le_add_right _ _, timely⟩
      · rw [World.deliver, if_neg failing] at publication
        exact .inl ⟨confirmed, Bool.eq_false_iff.2 failing, timely,
          run publication⟩
    · rw [if_neg timely, World.wait_of_ge ahead] at publication
      exact .inr ⟨fun h => timely h.2.2, _, _, w.faults, run publication, ahead,
        Nat.le_refl _⟩
  · have publication := World.ask_publish_of_fault declaring deadline e
      (Bool.not_eq_false _ ▸ confirmed)
    rw [World.useFault_snd] at publication
    exact .inr ⟨fun h => confirmed h.1, _, w.now, _, run publication,
      Nat.le_refl _, ahead⟩

/-- What enqueueing comes to: the task is in the queue at the end, or there is a failure by the
deadline at the latest and the queues are as before. -/
theorem carryOut_enqueue (g : Gateway) (e : Envelope) (w : World) :
    (w.Enqueues declaring g.enqueueLimit ∧
        (g.enqueue e).carryOut (World.ask declaring) w = some (.ok (), { w with
          now := w.now + declaring + World.duration w.publishLatency
          broker := w.broker.declare.push (.ofEnvelope e) })) ∨
      ¬ w.Enqueues declaring g.enqueueLimit ∧ ∃ cause now broker faults,
        (g.enqueue e).carryOut (World.ask declaring) w = some (.error cause, { w with
          now := now, broker := broker, faults := faults }) ∧
        w.now ≤ now ∧ now ≤ w.now + g.enqueueLimit.nanos ∧
        (broker = w.broker ∨ broker = w.broker.declare) := by
  have ahead : w.now ≤ w.now + g.enqueueLimit.nanos := Nat.le_add_right _ _
  have declaration := World.ask_declareTopology declaring ahead
  -- The clock is read first, and that takes no time.
  have clock : World.ask declaring .now w = some (w.now, w) := rfl
  have run {a : Option (Except Broker.Error Unit)} {w₁ : World}
      (h : World.ask declaring (.declareTopology (some (w.now + g.enqueueLimit.nanos))) w =
        some (a, w₁)) :
      (g.enqueue e).carryOut (World.ask declaring) w = _ :=
    (Program.carryOut_call clock).trans (Program.carryOut_call h)
  by_cases inTime : declaring ≤ g.enqueueLimit.nanos
  · have inTime₁ := Nat.add_le_add_left inTime w.now
    rw [if_pos inTime₁, World.wait_of_ge (Nat.le_add_right _ _)] at declaration
    let w₁ : World := { w with now := w.now + declaring }
    have same : (w₁.useFault .topology).1 = (w.useFault .topology).1 :=
      World.useFault_congr w w₁ rfl _
    by_cases declared : (w.useFault .topology).1 = false
    · rw [World.declareTopology_of_false (same.trans declared)] at declaration
      let w₂ : World := { w₁ with broker := w.broker.declare }
      have others : (w₂.useFault .publish).1 = (w.useFault .publish).1 :=
        World.useFault_congr w w₂ rfl _
      rcases g.carryOut_publishBy declaring e (w := w₂) inTime₁ with
        ⟨confirmed, delivered, timely, outcome⟩ | ⟨undone, cause, now, faults, outcome, later, soon⟩
      · refine .inl ⟨⟨declared, others ▸ confirmed, delivered, ?_⟩, (run declaration).trans outcome⟩
        exact Nat.le_of_add_le_add_left ((Nat.add_assoc ..).symm.trans_le timely)
      · refine .inr ⟨fun h => undone ⟨others.trans h.confirmed, h.delivered, ?_⟩, cause, now, _,
          faults, (run declaration).trans outcome, Nat.le_trans (Nat.le_add_right _ _) later, soon,
          .inr rfl⟩
        exact (Nat.add_assoc ..).trans_le (Nat.add_le_add_left h.timely w.now)
    · have hit := (Bool.not_eq_false _).mp declared
      rw [World.declareTopology_of_true (same.trans hit), World.useFault_snd] at declaration
      exact .inr ⟨fun h => declared h.declared, _, _, w.broker, _, run declaration,
        Nat.le_add_right _ _, inTime₁, .inl rfl⟩
  · rw [if_neg fun h => inTime (Nat.le_of_add_le_add_left h), World.wait_of_ge ahead] at declaration
    refine .inr ⟨fun enqueues => ?_, .timeout g.enqueueLimit, _, w.broker, w.faults,
      run declaration, ahead, Nat.le_refl _, .inl rfl⟩
    have timely := enqueues.timely
    omega

/-- The store of one who has taken a lock. -/
def locked (g : Gateway) (id : CorrelationId) (w : World) : Store.Memory :=
  (w.store.purge w.now).insert (g.idempotency.lockKey id)
    ⟨Idempotency.lockValue, w.now + g.idempotency.lockTtl.nanos⟩

/-- A lock that was free is free again when it is removed, and nothing else has come of it. -/
theorem erase_locked (g : Gateway) {id : CorrelationId} {later : Moment}
    (free : ¬ w.Holds (g.idempotency.lockKey id)) (h : w.now ≤ later) :
    ((g.locked id w).purge later).erase (g.idempotency.lockKey id) = w.store.purge later := by
  rw [World.holds_iff, Option.not_isSome_iff_eq_none] at free
  rw [← Store.Memory.purge_erase, locked, Store.Memory.erase_insert free,
    Store.Memory.purge_purge _ h]

theorem locked_eq (g : Gateway) {id : CorrelationId}
    (free : ¬ w.Holds (g.idempotency.lockKey id)) :
    g.locked id w = ⟨(g.idempotency.lockKey id,
        ⟨"processing", w.now + g.idempotency.lockTtl.nanos⟩) ::
      w.store.entries.filter fun (_, e) => w.now < e.expiresAt⟩ := by
  rw [World.holds_iff, Option.not_isSome_iff_eq_none] at free
  rw [locked, Store.Memory.insert, Store.Memory.erase_of_find?_eq_none free]
  rfl

/-- What has become of an event that asks for a task, and what has changed by it. -/
structure Outcome (g : Gateway) (declaring : Nat) (event : Event) (id : CorrelationId) (w : World)
    (a : GatewayAnswer) (w' : World) : Prop where
  duplicate : a = .duplicate id ↔ w.Holds (g.idempotency.markerKey id)
  inProgress : a = .inProgress id ↔
    ¬ w.Holds (g.idempotency.markerKey id) ∧ w.Holds (g.idempotency.lockKey id)
  failed : a = .failed id ↔
    ¬ w.Holds (g.idempotency.markerKey id) ∧ ¬ w.Holds (g.idempotency.lockKey id) ∧
      ¬ w.Enqueues declaring g.enqueueLimit
  accepted : a = .accepted id event.tenant event.conversationId ↔
    ¬ w.Holds (g.idempotency.markerKey id) ∧ ¬ w.Holds (g.idempotency.lockKey id) ∧
      w.Enqueues declaring g.enqueueLimit
  /-- Nothing is left of what had expired, and else all is as before. -/
  kept : a = .duplicate id ∨ a = .inProgress id →
    w' = { w with store := ⟨w.store.entries.filter fun (_, e) => w.now < e.expiresAt⟩ }
  /-- Time has passed, but no more than the limit; what has expired since is gone, and the topology
  may have been declared. -/
  undone : a = .failed id → ∃ now declarations faults,
    w' = { w with
      now := now
      broker := { w.broker with declarations := declarations }
      faults := faults
      store := ⟨w.store.entries.filter fun (_, e) => now < e.expiresAt⟩ } ∧
      w.now ≤ now ∧ now ≤ w.now + g.enqueueLimit.nanos ∧
      (declarations = w.broker.declarations ∨ declarations = w.broker.declarations + 1)
  /-- There is one more message at the end of the queue, with the task, and there is the lock. -/
  done : a = .accepted id event.tenant event.conversationId → ∃ m : Broker.Message,
    m.IsFreshTask event id w.wallClock ∧ w' = { w with
      now := w.now + declaring + World.duration w.publishLatency
      broker := { w.broker with
        declarations := w.broker.declarations + 1
        published := w.broker.published + 1
        ready := w.broker.ready ++ [m] }
      store := ⟨(g.idempotency.lockKey id,
          ⟨"processing", w.now + g.idempotency.lockTtl.nanos⟩) ::
        w.store.entries.filter fun (_, e) => w.now < e.expiresAt⟩ }

/-- An event whose lock has been taken is enqueued, or it leaves nothing behind. -/
theorem carryOut_submit (g : Gateway) (event : Event) (id : CorrelationId)
    (answers : w.StoreAnswers) (free : ¬ w.Holds (g.idempotency.lockKey id)) :
    (w.Enqueues declaring g.enqueueLimit ∧
        (g.submit event id).carryOut (World.ask declaring) { w with store := g.locked id w } =
          some (.accepted id event.tenant event.conversationId, { w with
            now := w.now + declaring + World.duration w.publishLatency
            broker := w.broker.declare.push (.ofEnvelope (.ofEvent event id w.wallClock))
            store := g.locked id w })) ∨
      ¬ w.Enqueues declaring g.enqueueLimit ∧ ∃ now broker faults,
        (g.submit event id).carryOut (World.ask declaring) { w with store := g.locked id w } =
          some (.failed id, { w with
            now := now, broker := broker, faults := faults, store := w.store.purge now }) ∧
        w.now ≤ now ∧ now ≤ w.now + g.enqueueLimit.nanos ∧
        (broker = w.broker ∨ broker = w.broker.declare) := by
  let w₁ : World := { w with store := g.locked id w }
  let task := Envelope.ofEvent event id w.wallClock
  have clock : Action.wallClock.carryOut (World.ask declaring) w₁ = some (w.wallClock, w₁) := rfl
  have run {outcome : Except Broker.Error Unit} {w₂ : World}
      (h : (g.enqueue task).carryOut (World.ask declaring) w₁ = some (outcome, w₂)) :
      (g.submit event id).carryOut (World.ask declaring) w₁ = _ :=
    (Program.carryOut_bind_of clock).trans
      (Program.carryOut_bind_of (p := g.enqueue task) h)
  have same := w.enqueues_store declaring (g.locked id w) g.enqueueLimit
  rcases g.carryOut_enqueue declaring task w₁ with
    ⟨enqueues, outcome⟩ | ⟨fails, cause, now, broker, faults, outcome, later, soon, broker_eq⟩
  · exact .inl ⟨same.1 enqueues, run outcome⟩
  · refine .inr ⟨fun h => fails (same.2 h), now, broker, faults, (run outcome).trans ?_, later,
      soon, broker_eq⟩
    have release := g.idempotency.carryOut_releaseLock declaring id
      (w := { w₁ with now := now, broker := broker, faults := faults }) ⟨answers.up, answers.prompt⟩
    refine (Program.carryOut_bind_of release).trans ?_
    exact congrArg (fun m => some (GatewayAnswer.failed id, { w with
      now := now, broker := broker, faults := faults, store := m })) (g.erase_locked free later)

/-- With the lock of an event in hand the gateway answers that it is accepted or has failed. -/
theorem exists_submitted (g : Gateway) (event : Event) {id : CorrelationId}
    (answers : w.StoreAnswers) (marked : ¬ w.Holds (g.idempotency.markerKey id))
    (free : ¬ w.Holds (g.idempotency.lockKey id)) :
    ∃ a w', (g.submit event id).carryOut (World.ask declaring) { w with store := g.locked id w } =
        some (a, w') ∧ g.Outcome declaring event id w a w' := by
  rcases g.carryOut_submit declaring event id answers free with
    ⟨enqueues, run⟩ | ⟨fails, now, broker, faults, run, later, soon, broker_eq⟩
  · have message := Broker.Message.isFreshTask_ofEvent event id w.wallClock
    exact ⟨_, _, run,
      { duplicate := by simp [marked]
        inProgress := by simp [free]
        failed := by simp [enqueues]
        accepted := by simp [marked, free, enqueues]
        kept := nofun
        undone := nofun
        done := fun _ => ⟨_, message, by rw [g.locked_eq free]; rfl⟩ }⟩
  · refine ⟨_, _, run,
      { duplicate := by simp [marked]
        inProgress := by simp [free]
        failed := by simp [marked, free, fails]
        accepted := by simp [fails]
        kept := nofun
        undone := fun _ => ?_
        done := nofun }⟩
    rcases broker_eq with rfl | rfl
    · exact ⟨now, w.broker.declarations, faults, rfl, later, soon, .inl rfl⟩
    · exact ⟨now, w.broker.declarations + 1, faults, rfl, later, soon, .inr rfl⟩

theorem exists_outcome (g : Gateway) (event : Event) (id : CorrelationId)
    (answers : w.StoreAnswers) :
    ∃ a w', (g.accept event id).carryOut (World.ask declaring) w = some (a, w') ∧
      g.Outcome declaring event id w a w' := by
  have look := g.idempotency.carryOut_isProcessed declaring id answers
  let w₁ : World := { w with store := w.store.purge w.now }
  have same (key : String) : w₁.Holds key ↔ w.Holds key := by
    rw [World.holds_iff, World.holds_iff]
    exact iff_of_eq (congrArg (fun m => (Store.Memory.find? m key).isSome = true)
      (w.store.purge_self w.now))
  by_cases marked : w.Holds (g.idempotency.markerKey id)
  · rw [decide_eq_true marked] at look
    refine ⟨.duplicate id, w₁, g.carryOut_accept_of_marked event look, ?_⟩
    constructor <;> simp [marked, w₁]
    rfl
  · rw [decide_eq_false marked] at look
    have tried := g.idempotency.carryOut_tryLock declaring (w := w₁) id
      ⟨answers.up, answers.prompt⟩
    rw [if_congr (same _) rfl rfl] at tried
    by_cases taken : w.Holds (g.idempotency.lockKey id)
    · rw [if_pos taken] at tried
      refine ⟨.inProgress id, w₁, (g.carryOut_accept_of_unmarked event look tried).trans ?_, ?_⟩
      · exact congrArg (fun m => some (GatewayAnswer.inProgress id, { w with store := m }))
          (w.store.purge_self w.now)
      · constructor <;> simp [marked, taken, w₁]
        rfl
    · rw [if_neg taken] at tried
      replace tried : (g.idempotency.tryLock id).carryOut (World.ask declaring) w₁ =
          some (.acquired, { w with store := g.locked id w }) :=
        tried.trans (congrArg (fun m : Store.Memory => some (LockAttempt.acquired, { w with
          store := m.insert (g.idempotency.lockKey id)
            ⟨Idempotency.lockValue, w.now + g.idempotency.lockTtl.nanos⟩ }))
          (w.store.purge_self w.now))
      obtain ⟨a, w', submitted, outcome⟩ := g.exists_submitted declaring event answers marked taken
      exact ⟨a, w', (g.carryOut_accept_of_unmarked event look tried).trans submitted, outcome⟩

/-- What has become of an event, by whether the filter lets it pass and it can be told from
others. -/
def Effect (g : Gateway) (declaring : Nat) (event : Event) (w : World) (a : GatewayAnswer)
    (w' : World) : Prop :=
  match g.filter.rejection? event, event.correlationId? with
  | some r, _ => a = .ignored (.rejected r) ∧ w' = w
  | none, none => a = .ignored .withoutId ∧ w' = w
  | none, some id => g.Outcome declaring event id w a w'

/-- The gateway comes to an answer for every event. -/
theorem exists_effect (g : Gateway) (event : Event) (answers : w.StoreAnswers) :
    ∃ a w', (g.handle event).carryOut (World.ask declaring) w = some (a, w') ∧
      g.Effect declaring event w a w' := by
  unfold handle Effect
  match g.filter.rejection? event, event.correlationId? with
  | some r, _ => exact ⟨_, w, rfl, rfl, rfl⟩
  | none, none => exact ⟨_, w, rfl, rfl, rfl⟩
  | none, some id => exact g.exists_outcome declaring event id answers

/-- Only an event that asks for a task is accepted, for its own conversation. -/
theorem Effect.of_accepted {g : Gateway} {declaring : Nat} {event : Event} {id : CorrelationId}
    {tenant conversation : Int64} {w' : World}
    (h : g.Effect declaring event w (.accepted id tenant conversation) w') :
    g.filter.rejection? event = none ∧ event.correlationId? = some id ∧
      tenant = event.tenant ∧ conversation = event.conversationId ∧
      g.Outcome declaring event id w (.accepted id tenant conversation) w' := by
  unfold Effect at h
  match hr : g.filter.rejection? event, hi : event.correlationId? with
  | some r, _ => rw [hr, hi] at h; cases h.1
  | none, none => rw [hr, hi] at h; cases h.1
  | none, some id' =>
    rw [hr, hi] at h
    change g.Outcome declaring event id' w _ w' at h
    by_cases marked : w.Holds (g.idempotency.markerKey id')
    · cases h.duplicate.2 marked
    · by_cases taken : w.Holds (g.idempotency.lockKey id')
      · cases h.inProgress.2 ⟨marked, taken⟩
      · by_cases enqueues : w.Enqueues declaring g.enqueueLimit
        · cases h.accepted.2 ⟨marked, taken, enqueues⟩
          exact ⟨rfl, rfl, rfl, rfl, h⟩
        · cases h.failed.2 ⟨marked, taken, enqueues⟩

end Gateway

namespace Http.Service

variable (declaring : Nat) {w : World}

theorem status_of_failed (id : CorrelationId) : (ofAnswer (.failed id)).status = 503 := rfl

theorem status_of_ne {a : GatewayAnswer} (h : ∀ id, a ≠ .failed id) :
    (ofAnswer a).status = 200 := by
  cases a with
  | failed id => exact absurd rfl (h id)
  | _ => rfl

/-- A response to a delivery of a body that is not too long, and what has changed by it. -/
def Effect (s : Service) (declaring : Nat) (body : Bytes) (w : World) (response : Response)
    (w' : World) : Prop :=
  match Event.ofBytes body with
  | .error e => response = refusal e ∧ response.status = 400 ∧ w' = w
  | .ok event => ∃ a, response = ofAnswer a ∧ s.gateway.Effect declaring event w a w' ∧
      (response.status = 503 ∧ (∃ id, a = .failed id) ∨
        response.status = 200 ∧ ∀ id, a ≠ .failed id)

/-- Every body that is not too long is answered, by the state of the store and of the broker, and
nothing changes but what the answer says. -/
theorem effect_of_delivery (s : Service) (body : Bytes) (w : World) (declaring : Nat)
    (short : body.length ≤ bodyLimit) (answers : w.StoreAnswers) :
    ∃ response w', (s.intake body).carryOut (World.ask declaring) w = some (response, w') ∧
      s.Effect declaring body w response w' := by
  unfold intake Effect
  rw [if_neg (Nat.not_lt.2 short)]
  match Event.ofBytes body with
  | .error e => exact ⟨_, w, rfl, rfl, rfl, rfl⟩
  | .ok event =>
    obtain ⟨a, w', run, effect⟩ := s.gateway.exists_effect declaring event answers
    refine ⟨ofAnswer a, w', Program.carryOut_bind_of run, a, rfl, effect, ?_⟩
    by_cases failed : ∃ id, a = .failed id
    · obtain ⟨id, rfl⟩ := failed
      exact .inl ⟨status_of_failed id, id, rfl⟩
    · exact .inr ⟨status_of_ne fun id same => failed ⟨id, same⟩, fun id same => failed ⟨id, same⟩⟩

def messageBody : Bytes :=
  Text.Utf8.encode
    "\x7b\"event\":\"message_created\",\"id\":42,\"content\":\"hi\",\"agent_bot\":1\x7d".toList

/-- A world whose broker takes four seconds for a publication. -/
def slowBroker : World :=
  { wallClock := ⟨2026, 1, 1, 0, 0, 0, 0⟩, publishLatency := Span.seconds 4 }

/-- Two seconds for the topology and four for the publication are more than the limit, and nothing
is left behind. With one second for the topology the task is in the queue, and the lock in the store
for five minutes. -/
theorem effect_of_delivery_of_slow_broker :
    let s : Service := ⟨{}, "", ""⟩
    let run (declaring : Nat) := (s.intake messageBody).carryOut (World.ask declaring) slowBroker
    messageBody.length ≤ bodyLimit ∧ slowBroker.StoreAnswers ∧
      (∃ response w', run 2000000000 = some (response, w') ∧
        s.Effect 2000000000 messageBody slowBroker response w') ∧
      (run 2000000000).map (fun (r, w) => (r.status, w.broker.ready, w.store.entries)) =
        some (503, [], []) ∧
      (∃ response w', run 1000000000 = some (response, w') ∧
        s.Effect 1000000000 messageBody slowBroker response w') ∧
      (run 1000000000).map (fun (r, w) =>
          (r.status, w.broker.ready.map (·.correlationId), w.store.entries)) =
        some (200, [some "42"], [("parley:processed:lock:42", ⟨"processing", 300 * 10 ^ 9⟩)]) ∧
      (run 1000000000).map (fun (_, w) => w.broker.ready.map fun m =>
          m.envelope?.map fun e => (e.correlationId.text, e.attempts, e.content)) =
        some [some ("42", 0, "hi")] := by
  intro s run
  have short : messageBody.length ≤ bodyLimit := by decide +kernel
  have answers : slowBroker.StoreAnswers := ⟨rfl, by decide⟩
  have effect (declaring : Nat) :=
    effect_of_delivery s messageBody slowBroker declaring short answers
  exact ⟨short, answers, effect _, by decide +kernel, effect _, by decide +kernel,
    by decide +kernel⟩

end Http.Service
end ReplyPipeline
