import ReplyPipeline.Proofs.EnvelopeText
import ReplyPipeline.Proofs.EventEffects
import ReplyPipeline.Proofs.KeyFamilies
import ReplyPipeline.Proofs.Lineage
import ReplyPipeline.Proofs.SingleFlight

/-!
# Copies of tasks

Tasks of any ids, where the store answers every call and settlements may fail. A message whose
delivery could not be settled comes back, so that there may be several copies of a task. Here is
what one exchange of a program does to the copies of a given task, and to its lock: `LockUse` for an
intake and `CopyUse` for a handling. Under other ids it does nothing to them, unless the marker of
another task is kept where the lock stands.
-/
namespace ReplyPipeline

namespace Broker.Message

/-- The message carries an envelope, and the id of it beside it. -/
def IsTask (m : Message) : Prop :=
  ∃ (e : Envelope) (redelivered : Bool), m = { ofEnvelope e with redelivered }

def isAbout (id : CorrelationId) (m : Message) : Bool := m.correlationId = some id.text

variable {m : Message} {e : Envelope} {id : CorrelationId}

theorem isTask_ofEnvelope (e : Envelope) : (ofEnvelope e).IsTask := ⟨e, false, rfl⟩

theorem IsTask.returned (h : m.IsTask) : IsTask { m with redelivered := true } := by
  obtain ⟨e, _, rfl⟩ := h
  exact ⟨e, true, rfl⟩

/-- The envelope of a task has the id that travels beside it. -/
theorem IsTask.correlationId_eq (h : m.IsTask) (decoded : Envelope.ofBytes m.body = .ok e) :
    m.correlationId = some e.correlationId.text := by
  obtain ⟨task, _, rfl⟩ := h
  rw [Envelope.correlationId_of_ofBytes decoded]
  rfl

theorem IsTask.correlationId_of_named (h : m.IsTask)
    (named : m.correlationId.map CorrelationId.ofText = some (.ok id)) :
    m.correlationId = some id.text := by
  obtain ⟨task, _, rfl⟩ := h
  have same := named
  simp only [ofEnvelope, Option.map_some, CorrelationId.ofText_text] at same
  cases same
  rfl

theorem isAbout_ofEnvelope (e : Envelope) (id : CorrelationId) :
    (ofEnvelope e).isAbout id = decide (e.correlationId = id) := by
  refine decide_eq_decide.2
    ⟨fun same => ?_, fun same => congrArg (fun k : CorrelationId => some k.text) same⟩
  exact Idempotency.text_injective (Option.some.inj same)

end Broker.Message

theorem QueueChange.forall_ready {P : Broker.Message → Prop} {origin : Option Nat} {l l' : Ledger}
    {b b' : Broker.Memory} (h : QueueChange P origin l l' b b') (hb : ∀ m ∈ b.ready, P m) :
    ∀ m ∈ b'.ready, P m := by
  cases h with
  | same _ ready => rwa [ready]
  | pushed hm _ ready =>
    rw [ready]
    exact List.forall_mem_append.2 ⟨hb, List.forall_mem_singleton.2 hm⟩
  | buried _ _ ready => rwa [ready]
  | returned hm _ ready =>
    rw [ready]
    exact List.forall_mem_cons.2 ⟨hm, hb⟩

namespace HandlingStanding

/-- A copy of the task is in the hands of the worker, and the lock stands for it. Once the task is
completed it does so for good. -/
def upholds (s : HandlingStanding) : Bool :=
  match s.settlement with
  | some (.reject, _) => !s.released
  | some (.ack, false) => !s.gone
  | _ => !s.passedOn

/-- The task was published again, and the delivery could not be acknowledged. -/
def isSplit (s : HandlingStanding) : Bool := s.passedOn && s.settlement = some (.ack, false)

/-- The task has been published again, and the delivery is going to be acknowledged. -/
def handsOn (s : HandlingStanding) : Bool := s.passedOn && s.settlement.isNone

theorem upholds_of_settled {s : HandlingStanding} (settled : s.isSettled = true) :
    HandlingStanding.upholds { s with gone := true } = s.upholds := by
  obtain ⟨_, _, _, settlement, _, _⟩ := s
  rcases settlement with _ | ⟨_ | _, _ | _⟩
  case some.ack.false => cases settled
  all_goals rfl

/-- What was tried and not done, and was no rejection, is an acknowledgement. -/
theorem settlement_eq_of_unsettled {s : HandlingStanding} (tried : s.settlement.isSome = true)
    (unsettled : s.isSettled = false) (unburied : s.settlement ≠ some (.reject, false)) :
    s.settlement = some (.ack, false) := by
  obtain ⟨_, _, _, settlement, _, _⟩ := s
  rcases settlement with _ | ⟨_ | _, _ | _⟩
  case none => cases tried
  case some.ack.false => rfl
  case some.reject.false => exact absurd rfl unburied
  all_goals cases unsettled

/-- What has been published and settled stays so. -/
structure Grows (s s' : HandlingStanding) : Prop where
  passedOn : s.passedOn = true → s'.passedOn = true
  settlement : ∀ p, s.settlement = some p → s'.settlement = some p

theorem Grows.refl (s : HandlingStanding) : s.Grows s := ⟨id, fun _ => id⟩

theorem Grows.isSplit {s s' : HandlingStanding} (h : s.Grows s') (split : s.isSplit = true) :
    s'.isSplit = true := by
  simp only [HandlingStanding.isSplit, Bool.and_eq_true, decide_eq_true_eq] at split ⊢
  exact ⟨h.passedOn split.1, h.settlement _ split.2⟩

theorem grows_after {x : TaskHandler} {d : Broker.Delivery} {s : HandlingStanding}
    {r : PipelineRequest} (hr : s.allows x d r) (a : r.Answer) : s.Grows (s.after ⟨r, a⟩) := by
  refine ⟨fun passed => ?_, fun p settled => ?_⟩
  · rw [passedOn_after, passed, Bool.or_true]
  · cases r with
    | settle id how =>
      rw [(settlement_of_allows hr).2] at settled
      cases settled
    | process e limit => cases a <;> exact settled
    | reply => cases a <;> exact settled
    | publish e deadline =>
      match a with
      | none => exact settled
      | some (.error _) => exact settled
      | some (.ok ()) => exact settled
    | store call limit => cases call <;> exact settled
    | _ => exact settled

end HandlingStanding

def Intake.holds (id : CorrelationId) (i : Intake) : Bool :=
  decide (i.event.correlationId? = some id) && i.standing.holds

/-- A copy of the task of an id is in the hands of the worker. -/
def Handling.upholds (id : CorrelationId) (h : Handling) : Bool :=
  h.delivery.message.isAbout id && h.standing.upholds

namespace Traffic

/-- The store answers every call, nothing is cut off, and nobody else writes to the store. -/
def responsive : Happening → Bool
  | .answered ⟨.store .., a⟩ => Except.isOk a
  | .crashed => false
  | .intruded => false
  | _ => true

/-- How many have the lock of an id in order to publish its task. -/
def holders (s : Traffic) (id : CorrelationId) : Nat := s.intakes.countP (·.holds id)

/-- How many copies of a task there are, in the queue or in the hands of workers. -/
def copies (s : Traffic) (id : CorrelationId) : Nat :=
  s.world.broker.ready.countP (·.isAbout id) + s.handlings.countP (·.upholds id)

end Traffic

section Exchanges

variable {g : Gateway} {x : TaskHandler} {id : CorrelationId} {event : Event}
  {d : Broker.Delivery} {m m' : Record} {till : Moment} {r : PipelineRequest} {a : r.Answer}
  {key : String} {n n' : Nat}

/-- What an exchange of an intake does to the lock of an id and to the copies in the queue. -/
inductive LockUse (key : String) (till : Moment) (holds holds' : Bool) (n n' : Nat)
    (m m' : Store.Memory) : Prop
  | same : holds' = holds → n' = n → (m.Lasts key till → m'.Lasts key till) →
      LockUse key till holds holds' n n' m m'
  | taken : holds = false → holds' = true → n' = n → ¬ m.Lasts key till → m'.Lasts key till →
      LockUse key till holds holds' n n' m m'
  | givenBack : holds = true → holds' = false → n' = n → LockUse key till holds holds' n n' m m'
  | enqueued : holds = true → holds' = false → n' = n + 1 →
      (m.Lasts key till → m'.Lasts key till) → LockUse key till holds holds' n n' m m'

namespace IntakeStanding

theorem lockUse_of_attempt {k value : String} {ttl : Span} {limit : Option Span}
    (hr : looking.allows g event (.store (.setIfAbsent k value ttl) limit)) (hn : m.now < till)
    (hl : till ≤ m.now + g.idempotency.lockTtl.nanos) {taken : Bool} {store : Store.Memory}
    (ha : m.store.perform m.now (.setIfAbsent k value ttl) = (taken, store)) :
    LockUse (g.idempotency.lockKey id) till false
      (decide (event.correlationId? = some id) &&
        (looking.after ⟨.store (.setIfAbsent k value ttl) limit, .ok taken⟩).holds)
      n n m.store store := by
  obtain ⟨k, hk, rfl, rfl⟩ := hr
  obtain rfl : (m.store.perform m.now
      (.setIfAbsent (g.idempotency.lockKey k) value g.idempotency.lockTtl)).2 = store :=
    congrArg Prod.snd ha
  have spared (h : m.store.Lasts (g.idempotency.lockKey id) till) :
      (m.store.perform m.now (.setIfAbsent (g.idempotency.lockKey k) value
        g.idempotency.lockTtl)).2.Lasts (g.idempotency.lockKey id) till :=
    h.perform hn trivial
  cases taken with
  | false =>
    refine .same ?_ rfl spared
    simp [after, LockAttempt.ofAnswer, LockAttempt.mayProceed, holds]
  | true =>
    by_cases own : k = id
    · subst own
      obtain ⟨free, e, he, lasts⟩ := Store.Memory.setIfAbsent_eq_true (congrArg Prod.fst ha)
      refine .taken rfl ?_ rfl (free _ hn) ⟨e, he, Nat.le_trans hl lasts⟩
      simp [hk, after, LockAttempt.ofAnswer, LockAttempt.mayProceed, holds]
    · have other : event.correlationId? ≠ some id := by simpa [hk] using own
      exact .same (by simp [other]) rfl spared

/-- A task that gets into the queue is a copy that the lock stands for from then on. -/
theorem lockUse_of_publish {e : Envelope} {deadline : Option Moment}
    {a : Option (Except Broker.Error Unit)} (hr : holding.allows g event (.publish e deadline))
    (ha : m.Answers (.publish e deadline) a m') :
    LockUse key till (decide (event.correlationId? = some id) && holding.holds)
      (decide (event.correlationId? = some id) && (holding.after ⟨.publish e deadline, a⟩).holds)
      (m.broker.ready.countP (·.isAbout id)) (m'.broker.ready.countP (·.isAbout id))
      m.store m'.store := by
  rcases ha with ⟨rfl, rfl⟩ | ⟨failed, rfl⟩
  · obtain ⟨k, instant, hk, rfl⟩ := hr
    have about : (Broker.Message.ofEnvelope (.ofEvent event k instant)).isAbout id =
        decide (k = id) := Broker.Message.isAbout_ofEnvelope ..
    by_cases own : k = id
    · subst own
      refine .enqueued (by simp [hk, holds]) (by simp [after, holds]) ?_ fun h => h
      simp [Broker.Memory.push, about]
    · have other : event.correlationId? ≠ some id := by simpa [hk] using own
      exact .same (by simp [other]) (by simp [Broker.Memory.push, about, own]) fun h => h
  · rw [after_publish_of_ne failed]
    exact .same rfl rfl fun h => h

theorem lockUse_of_release {k : String} {limit : Option Span} {a : Except Store.Error Unit}
    (hr : holding.allows g event (.store (.delete k) limit)) (hn : m.now < till) :
    LockUse (g.idempotency.lockKey id) till (decide (event.correlationId? = some id) && holding.holds)
      (decide (event.correlationId? = some id) &&
        (holding.after ⟨.store (.delete k) limit, a⟩).holds)
      n n m.store (m.store.perform m.now (.delete k)).2 := by
  obtain ⟨k, hk, rfl⟩ := hr
  by_cases own : k = id
  · subst own
    exact .givenBack (by simp [hk, holds]) (by simp [after, holds]) rfl
  · have other : event.correlationId? ≠ some id := by simpa [hk] using own
    refine .same (by simp [other]) rfl fun h => h.perform hn ?_
    exact fun same => own (g.idempotency.lockKey_injective same)

theorem lockUse_of_answer {s : IntakeStanding} (hr : s.allows g event r)
    (ha : m.Answers r a m') (hp : Traffic.responsive (.answered ⟨r, a⟩) = true)
    (hn : m.now < till) (hl : till ≤ m.now + g.idempotency.lockTtl.nanos) :
    LockUse (g.idempotency.lockKey id) till
      (decide (event.correlationId? = some id) && s.holds)
      (decide (event.correlationId? = some id) && (s.after ⟨r, a⟩).holds)
      (m.broker.ready.countP (·.isAbout id)) (m'.broker.ready.countP (·.isAbout id))
      m.store m'.store := by
  cases s with
  | looking =>
    cases r with
    | store call limit =>
      rcases ha with ⟨rfl, rfl⟩ | ⟨⟨e, rfl⟩, -⟩
      · cases call with
        | contains key => exact .same rfl rfl fun h => h.perform hn trivial
        | setIfAbsent key value ttl =>
          have free : (decide (event.correlationId? = some id) && looking.holds) = false :=
            Bool.and_false _
          rw [free]
          exact lockUse_of_attempt hr hn hl rfl
        | _ => exact hr.elim
      · cases hp
    | _ => exact hr.elim
  | holding =>
    cases r with
    | now => obtain ⟨-, rfl⟩ := ha; exact .same rfl rfl fun h => h
    | wallClock => cases ha; exact .same rfl rfl fun h => h
    | declareTopology deadline =>
      rcases ha with ⟨-, rfl⟩ | ⟨-, rfl⟩ <;> exact .same rfl rfl fun h => h
    | publish e deadline => exact lockUse_of_publish hr ha
    | store call limit =>
      rcases ha with ⟨rfl, rfl⟩ | ⟨⟨e, rfl⟩, -⟩
      · cases call with
        | delete key => exact lockUse_of_release hr hn
        | _ => exact hr.elim
      · cases hp
    | _ => exact hr.elim
  | enqueued => cases r <;> exact hr.elim
  | released => cases r <;> exact hr.elim

end IntakeStanding

/-- What an exchange of a handling does to the copies of a task and to their lock. The lock is
removed only along with a copy that has been rejected. -/
inductive CopyUse (key : String) (till : Moment) (id : CorrelationId) (d : Broker.Delivery)
    (s s' : HandlingStanding) (b b' : Broker.Memory) (m m' : Store.Memory) : Prop
  | same : (d.message.isAbout id = true → s'.upholds = s.upholds) →
      b'.ready.countP (·.isAbout id) = b.ready.countP (·.isAbout id) →
      (m.Lasts key till → m'.Lasts key till) → CopyUse key till id d s s' b b' m m'
  | moved : d.message.isAbout id = true → s.upholds = true → s'.upholds = false →
      b'.ready.countP (·.isAbout id) = b.ready.countP (·.isAbout id) + 1 →
      (m.Lasts key till → m'.Lasts key till) → CopyUse key till id d s s' b b' m m'
  | split : d.message.isAbout id = true → s.upholds = false → s'.upholds = true →
      s'.isSplit = true → b'.ready.countP (·.isAbout id) = b.ready.countP (·.isAbout id) →
      (m.Lasts key till → m'.Lasts key till) → CopyUse key till id d s s' b b' m m'
  | buried : d.message.isAbout id = true → s.upholds = true → s'.upholds = false →
      s'.settlement = some (.reject, true) →
      b'.ready.countP (·.isAbout id) = b.ready.countP (·.isAbout id) →
      CopyUse key till id d s s' b b' m m'

namespace HandlingStanding

variable {s : HandlingStanding} {number : Broker.DeliveryId}

theorem copyUse_of_publish {e : Envelope} {deadline : Option Moment}
    {a : Option (Except Broker.Error Unit)} (task : d.message.IsTask)
    (hr : s.allows x d (.publish e deadline)) (ha : m.Answers (.publish e deadline) a m') :
    CopyUse key till id d s (s.after ⟨.publish e deadline, a⟩) m.broker m'.broker m.store
      m'.store := by
  rcases ha with ⟨rfl, rfl⟩ | ⟨failed, rfl⟩
  · obtain ⟨rfl, e', decoded, rfl⟩ := hr
    have beside := task.correlationId_eq decoded
    have about : (Broker.Message.ofEnvelope e'.recordFailure).isAbout id =
        d.message.isAbout id :=
      decide_eq_decide.2 (by rw [beside]; rfl)
    by_cases own : d.message.isAbout id = true
    · refine .moved own rfl rfl ?_ fun h => h
      simp [Broker.Memory.push, about, own]
    · refine .same (fun h => absurd h own) ?_ fun h => h
      simp [Broker.Memory.push, about, own]
  · rw [after_publish_of_ne failed]
    exact .same (fun _ => rfl) rfl fun h => h

/-- An acknowledgement that was not done splits a task that has been published again. -/
theorem copyUse_of_unacknowledged {m : Record} {e : Broker.Error}
    (hr : s.allows x d (.settle number .ack)) :
    CopyUse key till id d s (s.after ⟨.settle number .ack, .error e⟩) m.broker m.broker m.store
      m.store := by
  have before : s.upholds = !s.passedOn := by
    unfold upholds
    rw [(settlement_of_allows hr).2]
  have upheld : (s.after ⟨.settle number .ack, .error e⟩).upholds = true := by
    simp [upholds, after, gone_of_allows hr, Except.isOk, Except.toBool]
  by_cases own : d.message.isAbout id = true
  · cases passed : s.passedOn with
    | true =>
      refine .split own (by rw [before, passed]; rfl) upheld ?_ rfl fun h => h
      simp [isSplit, after, passed, Except.isOk, Except.toBool]
    | false => exact .same (fun _ => by rw [upheld, before, passed]; rfl) rfl fun h => h
  · exact .same (fun h => absurd h own) rfl fun h => h

theorem copyUse_of_settle {how : Broker.Settlement} {a : Except Broker.Error Unit}
    (hr : s.allows x d (.settle number how)) (ha : m.Answers (.settle number how) a m')
    (hold : ∃ c, m.broker.held.lookup d.id = some ⟨d.message, c, s.isSettled⟩)
    (buried : d.message.isAbout id = true →
      (s.after ⟨.settle number how, a⟩).settlement ≠ some (.reject, false)) :
    CopyUse key till id d s (s.after ⟨.settle number how, a⟩) m.broker m'.broker m.store
      m'.store := by
  obtain ⟨c, hold⟩ := hold
  obtain ⟨rfl, fresh⟩ := settlement_of_allows hr
  obtain ⟨ok, done⟩ := Broker.Memory.settle_of_open how hold (isSettled_of_none fresh)
  rcases ha with ⟨rfl, rfl⟩ | ⟨⟨e, rfl⟩, rfl⟩
  · rw [ok]
    refine .same (fun _ => ?_) (by rw [done.ready]) fun h => h
    cases how with
    | ack =>
      unfold upholds
      rw [fresh]
      rfl
    | reject =>
      obtain ⟨stage, rfl⟩ := stage_of_reject hr
      rfl
  · cases how with
    | ack => exact copyUse_of_unacknowledged hr
    | reject => exact .same (fun own => absurd rfl (buried own)) rfl fun h => h

theorem copyUse_of_drop (hr : s.allows x d (.drop number))
    (hold : ∃ c, m.broker.held.lookup d.id = some ⟨d.message, c, s.isSettled⟩)
    (buried : d.message.isAbout id = true → s.settlement ≠ some (.reject, false)) :
    CopyUse key till id d s (s.after ⟨.drop number, ()⟩) m.broker (m.broker.drop number) m.store
      m.store := by
  obtain ⟨c, hold⟩ := hold
  obtain ⟨rfl, tried, here⟩ := hr
  cases settled : s.isSettled with
  | true =>
    refine .same (fun _ => upholds_of_settled settled) ?_ fun h => h
    rw [Broker.Memory.drop_ready_of_settled hold settled]
  | false =>
    have back := Broker.Memory.drop_ready_of_open hold settled
    have about : Broker.Message.isAbout id { d.message with redelivered := true } =
        d.message.isAbout id := rfl
    by_cases own : d.message.isAbout id = true
    · have how := settlement_eq_of_unsettled tried settled (buried own)
      refine .moved own ?_ ?_ ?_ fun h => h
      · simp [upholds, how, here]
      · simp [upholds, after, how]
      · simp [back, about, own]
    · exact .same (fun h => absurd h own) (by simp [back, about, own]) fun h => h

/-- A marker is not kept where the lock of another task stands, unless it outlives that lock. -/
theorem copyUse_of_mark {k value : String} {ttl : Span} {limit : Option Span}
    (task : d.message.IsTask) (hr : s.allows x d (.store (.set k value ttl) limit))
    (hn : m.now < till)
    (marked : till ≤ m.now + x.idempotency.markerTtl.nanos ∨
      d.message.correlationId ≠ some ("lock:" ++ id.text)) :
    CopyUse (x.idempotency.lockKey id) till id d s s m.broker m.broker m.store
      (m.store.perform m.now (.set k value ttl)).2 := by
  obtain ⟨e, decoded, rfl, -, rfl, -⟩ := hr
  refine .same (fun _ => rfl) rfl fun h => h.perform hn fun clash => ?_
  rcases marked with marked | other
  · exact marked
  · refine absurd ?_ other
    rw [task.correlationId_eq decoded,
      (x.idempotency.markerKey_eq_lockKey_iff e.correlationId id).1 clash]

/-- A lock is removed for a copy of its own task, and only after that copy was rejected. -/
theorem copyUse_of_release {k : String} {limit : Option Span} {a : Except Store.Error Unit}
    (task : d.message.IsTask) (hr : s.allows x d (.store (.delete k) limit)) (hn : m.now < till)
    (buried : d.message.isAbout id = true → s.settlement ≠ some (.reject, false)) :
    CopyUse (x.idempotency.lockKey id) till id d s (s.after ⟨.store (.delete k) limit, a⟩) m.broker
      m.broker m.store (m.store.perform m.now (.delete k)).2 := by
  obtain ⟨done, k, rfl, rejected, standing, -, named⟩ := hr
  have beside : d.message.correlationId = some k.text := by
    rcases named with ⟨e, decoded, rfl⟩ | named
    · exact task.correlationId_eq decoded
    · exact task.correlationId_of_named named
  by_cases own : k = id
  · subst own
    have about : d.message.isAbout k = true := decide_eq_true beside
    obtain rfl : done = true := by
      cases done with
      | true => rfl
      | false => exact absurd rejected (buried about)
    refine .buried about ?_ ?_ rejected rfl
    · simp [upholds, rejected, standing]
    · simp [upholds, after, rejected]
  · have other : d.message.isAbout id ≠ true := by
      intro about
      have same := beside.symm.trans (of_decide_eq_true about)
      exact own (Idempotency.text_injective (Option.some.inj same))
    refine .same (fun h => absurd h other) rfl fun h => h.perform hn ?_
    exact fun same => own (x.idempotency.lockKey_injective same)

theorem copyUse_of_answer (task : d.message.IsTask) (hr : s.allows x d r) (ha : m.Answers r a m')
    (hp : Traffic.responsive (.answered ⟨r, a⟩) = true) (hn : m.now < till)
    (hold : ∃ c, m.broker.held.lookup d.id = some ⟨d.message, c, s.isSettled⟩)
    (buried : d.message.isAbout id = true →
      (s.after ⟨r, a⟩).settlement ≠ some (.reject, false))
    (marked : till ≤ m.now + x.idempotency.markerTtl.nanos ∨
      d.message.correlationId ≠ some ("lock:" ++ id.text)) :
    CopyUse (x.idempotency.lockKey id) till id d s (s.after ⟨r, a⟩) m.broker m'.broker
      m.store m'.store := by
  cases r with
  | tally k => cases ha; exact .same (fun _ => rfl) rfl fun h => h
  | pause t => cases ha; exact .same (fun _ => rfl) rfl fun h => h
  | process e limit => cases ha; cases a <;> exact .same (fun _ => rfl) rfl fun h => h
  | reply =>
    rcases ha with ⟨rfl, rfl⟩ | ⟨⟨e, rfl⟩, rfl⟩ <;> exact .same (fun _ => rfl) rfl fun h => h
  | publish e deadline => exact copyUse_of_publish task hr ha
  | settle number how => exact copyUse_of_settle hr ha hold buried
  | drop number => cases ha; exact copyUse_of_drop hr hold buried
  | store call limit =>
    rcases ha with ⟨rfl, rfl⟩ | ⟨⟨e, rfl⟩, -⟩
    · cases call with
      | set k value ttl => exact copyUse_of_mark task hr hn marked
      | delete k => exact copyUse_of_release task hr hn buried
      | _ => exact hr.elim
    · cases hp
  | _ => exact hr.elim

end HandlingStanding

end Exchanges

end ReplyPipeline
