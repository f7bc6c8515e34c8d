import ReplyPipeline.Proofs.Custody
import ReplyPipeline.Proofs.Entries

/-!
# Single flight

Traffic in which all events carry one id, the store and the settlements never fail, nothing is cut
off and nobody else writes to the store. While it is younger than the lock and the marker can get,
the lock stands for one thing at a time: an intake that holds it, a message in the queue, or a
handling that bears it. A handling bears the lock until the task has been published again or, where
the delivery was rejected, until the lock is removed; one that completes bears it for good.
Declarations, publications, processing and the sink may fail at any time.
-/
namespace ReplyPipeline

namespace Handling

def isProcessing (h : Handling) : Bool :=
  match h.thread with
  | ⟨.call (.process ..) _, _, some _, true⟩ => true
  | _ => false

end Handling

namespace Traffic

/-- Nothing is under way, and there are no messages and no replies. -/
structure Fresh (s : Traffic) : Prop where
  intakes : s.intakes = []
  handlings : s.handlings = []
  ready : s.world.broker.ready = []
  deadLetters : s.world.broker.deadLetters = []
  held : s.world.broker.held = []
  sent : s.world.sent = []

/-- The step is part of a traffic about one id that no failure of the store, of a settlement or of a
program disturbs. -/
def undisturbed (id : CorrelationId) : Happening → Bool
  | .arrived event => event.correlationId? = some id
  | .answered ⟨.store .., a⟩ => Except.isOk a
  | .answered ⟨.settle .., a⟩ => Except.isOk a
  | .crashed => false
  | .intruded => false
  | _ => true

/-- The copies of tasks that are in the queue, or in flight and not yet published again. -/
def liveCopies (s : Traffic) : Nat :=
  s.world.broker.ready.length +
    s.handlings.countP fun h => h.inFlight s.world.broker && !h.thread.past.hasPublished

end Traffic

namespace IntakeStanding

def holds : IntakeStanding → Bool
  | .holding => true
  | _ => false

def isEnqueued : IntakeStanding → Bool
  | .enqueued => true
  | _ => false

end IntakeStanding

namespace HandlingStanding

/-- The lock stands for the handling. -/
def bears (s : HandlingStanding) : Bool :=
  match s.settlement with
  | some (.reject, _) => !s.released
  | _ => !s.passedOn

/-- The task is in neither queue, on account of the handling. -/
def owns (s : HandlingStanding) : Bool :=
  match s.settlement with
  | some (.reject, _) => false
  | _ => !s.passedOn

/-- No settlement failed, and a reply was posted once at most, by a handling that keeps its task. -/
structure Orderly (s : HandlingStanding) : Prop where
  settled : s.settlement.all (·.2) = true
  posted : s.posted ≤ s.owns.toNat
  succeeded : 0 < s.posted → s.stage = .succeeded

theorem Orderly.of_posted_eq_zero {s : HandlingStanding} (settled : s.settlement.all (·.2) = true)
    (none : s.posted = 0) : s.Orderly := by
  refine ⟨settled, ?_, fun some => ?_⟩
  · rw [none]
    exact Nat.zero_le _
  · exact absurd none (Nat.ne_of_gt some)

theorem Orderly.posted_le_bears {s : HandlingStanding} (h : s.Orderly) :
    s.posted ≤ s.bears.toNat := by
  refine Nat.le_trans h.posted ?_
  unfold owns bears
  split
  · exact Nat.zero_le _
  · exact Nat.le_refl _

end HandlingStanding

section Exchanges

variable {g : Gateway} {x : TaskHandler} {id : CorrelationId} {event : Event}
  {d : Broker.Delivery} {m m' : Record} {horizon : Moment} {r : PipelineRequest} {a : r.Answer}

/-- What an exchange of an intake does to the lock and the queues. Only taking the lock adds to
what it stands for, and only where it was free. -/
structure IntakeStanding.Effect (s s' : IntakeStanding) (m m' : Record) (key : String)
    (horizon : Moment) : Prop where
  sent : m'.sent = m.sent
  dead : m'.broker.deadLetters = m.broker.deadLetters
  enqueued : s'.isEnqueued.toNat + m.broker.ready.length =
    s.isEnqueued.toNat + m'.broker.ready.length
  lock :
    s'.holds.toNat + m'.broker.ready.length = s.holds.toNat + m.broker.ready.length ∧
        (m.store.Lasts key horizon → m'.store.Lasts key horizon) ∨
      s'.holds.toNat + m'.broker.ready.length + 1 = s.holds.toNat + m.broker.ready.length ∨
      s'.holds.toNat + m'.broker.ready.length = s.holds.toNat + m.broker.ready.length + 1 ∧
        ¬ m.store.Lasts key horizon ∧ m'.store.Lasts key horizon

theorem IntakeStanding.Effect.of_same {s s' : IntakeStanding} {key : String} (hs : s' = s)
    (sent : m'.sent = m.sent) (ready : m'.broker.ready = m.broker.ready)
    (dead : m'.broker.deadLetters = m.broker.deadLetters)
    (store : m.store.Lasts key horizon → m'.store.Lasts key horizon) :
    IntakeStanding.Effect s s' m m' key horizon := by
  subst hs
  exact ⟨sent, dead, by rw [ready], .inl ⟨by rw [ready], store⟩⟩

theorem IntakeStanding.exchange {s : IntakeStanding} (hid : event.correlationId? = some id)
    (hr : s.allows g event r) (ha : m.Answers r a m')
    (hp : Traffic.undisturbed id (.answered ⟨r, a⟩) = true) (hn : m.now < horizon)
    (hl : horizon ≤ m.now + g.idempotency.lockTtl.nanos) :
    IntakeStanding.Effect s (s.after ⟨r, a⟩) m m' (g.idempotency.lockKey id) horizon := by
  cases s with
  | looking =>
    cases r with
    | store call limit =>
      rcases ha with ⟨rfl, rfl⟩ | ⟨⟨e, rfl⟩, -⟩
      · cases call with
        | contains key => exact .of_same rfl rfl rfl rfl fun h => h.perform hn trivial
        | setIfAbsent key value ttl =>
          obtain ⟨k, hk, rfl, rfl⟩ := hr
          obtain rfl : id = k := Option.some.inj (hid.symm.trans hk)
          cases taken : (m.store.perform m.now (.setIfAbsent (g.idempotency.lockKey id) value
              g.idempotency.lockTtl)).1 with
          | false =>
            refine .of_same ?_ rfl rfl rfl fun h => h.perform hn trivial
            simp [after, LockAttempt.ofAnswer, LockAttempt.mayProceed]
          | true =>
            obtain ⟨free, e, he, lasts⟩ := Store.Memory.setIfAbsent_eq_true taken
            refine ⟨rfl, rfl, rfl, .inr (.inr ⟨?_, free _ hn, e, he, Nat.le_trans hl lasts⟩)⟩
            exact Nat.add_right_comm 0 1 _
        | _ => exact hr.elim
      · cases hp
    | _ => exact hr.elim
  | holding =>
    cases r with
    | now => obtain ⟨-, rfl⟩ := ha; exact .of_same rfl rfl rfl rfl fun h => h
    | wallClock => cases ha; exact .of_same rfl rfl rfl rfl fun h => h
    | declareTopology deadline =>
      rcases ha with ⟨-, rfl⟩ | ⟨-, rfl⟩ <;> exact .of_same rfl rfl rfl rfl fun h => h
    | publish e deadline =>
      rcases ha with ⟨rfl, rfl⟩ | ⟨failed, rfl⟩
      · refine ⟨rfl, rfl, ?_, .inl ⟨?_, fun h => h⟩⟩
        · simp [after, isEnqueued, Broker.Memory.push, Nat.add_comm]
        · simp [after, holds, Broker.Memory.push, Nat.add_comm]
      · exact .of_same (after_publish_of_ne failed) rfl rfl rfl fun h => h
    | store call limit =>
      cases call with
      | delete key =>
        rcases ha with ⟨rfl, rfl⟩ | ⟨⟨e, rfl⟩, -⟩
        · exact ⟨rfl, rfl, rfl, .inr (.inl (Nat.add_right_comm ..))⟩
        · cases hp
      | _ => exact hr.elim
    | _ => exact hr.elim
  | enqueued => cases r <;> exact hr.elim
  | released => cases r <;> exact hr.elim

/-- What an exchange of a handling does to the lock, the queues and the sink. -/
structure HandlingStanding.Effect (s s' : HandlingStanding) (m m' : Record) (key : String)
    (horizon : Moment) : Prop where
  orderly : s'.Orderly
  sent : m'.sent.length + s.posted = m.sent.length + s'.posted
  tasks : s'.owns.toNat + m'.broker.ready.length + m'.broker.deadLetters.length =
    s.owns.toNat + m.broker.ready.length + m.broker.deadLetters.length
  lock :
    s'.bears.toNat + m'.broker.ready.length = s.bears.toNat + m.broker.ready.length ∧
        (m.store.Lasts key horizon → m'.store.Lasts key horizon) ∨
      s'.bears.toNat + m'.broker.ready.length + 1 = s.bears.toNat + m.broker.ready.length

theorem HandlingStanding.Effect.of_same {s s' : HandlingStanding} {key : String}
    (orderly : s'.Orderly) (posted : s'.posted = s.posted) (bears : s'.bears = s.bears)
    (owns : s'.owns = s.owns) (sent : m'.sent = m.sent)
    (ready : m'.broker.ready = m.broker.ready)
    (dead : m'.broker.deadLetters = m.broker.deadLetters)
    (store : m.store.Lasts key horizon → m'.store.Lasts key horizon) :
    HandlingStanding.Effect s s' m m' key horizon :=
  ⟨orderly, by rw [sent, posted], by rw [owns, ready, dead], .inl ⟨by rw [bears, ready], store⟩⟩

section Settling

variable {s : HandlingStanding} {key : String} {number : Broker.DeliveryId}
  (hold : ∃ c, m.broker.held.lookup d.id = some ⟨d.message, c, s.isSettled⟩)
include hold

/-- A delivery is acknowledged when its task is completed or has been published again. Neither the
lock nor the task moves with that. -/
theorem HandlingStanding.effect_of_ack (ho : s.Orderly) (hr : s.allows x d (.settle number .ack)) :
    HandlingStanding.Effect s (s.after ⟨.settle number .ack, (m.broker.settle number .ack).1⟩) m
      { m with broker := (m.broker.settle number .ack).2 } key horizon := by
  obtain ⟨c, hold⟩ := hold
  have fresh := isSettled_of_none (settlement_of_allows hr).2
  obtain ⟨rfl, hs⟩ := hr
  obtain ⟨ok, done⟩ := Broker.Memory.settle_of_open .ack hold fresh
  have dead : (m.broker.settle d.id .ack).2.deadLetters = m.broker.deadLetters := by
    simpa using done.dead
  rw [ok]
  rcases hs with completed | republished
  · refine .of_same ?_ rfl ?_ ?_ rfl done.ready dead fun h => h
    · rw [completed] at ho ⊢
      exact ⟨rfl, ho.posted, fun _ => rfl⟩
    · rw [completed]; rfl
    · rw [completed]; rfl
  · refine .of_same ?_ rfl ?_ ?_ rfl done.ready dead fun h => h
    · rw [republished]
      exact .of_posted_eq_zero rfl rfl
    · rw [republished]; rfl
    · rw [republished]; rfl

/-- A delivery that is rejected bears the lock until the lock is removed; its task goes to the dead
letters. -/
theorem HandlingStanding.effect_of_reject (hr : s.allows x d (.settle number .reject)) :
    HandlingStanding.Effect s (s.after ⟨.settle number .reject, (m.broker.settle number .reject).1⟩)
      m { m with broker := (m.broker.settle number .reject).2 } key horizon := by
  obtain ⟨c, hold⟩ := hold
  obtain ⟨stage, rfl⟩ := stage_of_reject hr
  obtain ⟨rfl, -⟩ := hr
  obtain ⟨ok, done⟩ := Broker.Memory.settle_of_open .reject hold rfl
  rw [ok]
  refine ⟨.of_posted_eq_zero rfl rfl, rfl, ?_, .inl ⟨?_, fun h => h⟩⟩
  · rw [done.ready, done.dead]
    simp [after, owns]
    omega
  · rw [done.ready]
    rfl

theorem HandlingStanding.effect_of_drop (ho : s.Orderly) (hr : s.allows x d (.drop number)) :
    HandlingStanding.Effect s (s.after ⟨.drop number, ()⟩) m
      { m with broker := m.broker.drop number } key horizon := by
  obtain ⟨c, hold⟩ := hold
  obtain ⟨rfl, tried, -⟩ := hr
  have settled := isSettled_of_tried tried ho.settled
  exact .of_same ⟨ho.settled, ho.posted, ho.succeeded⟩ rfl rfl rfl rfl
    (Broker.Memory.drop_ready_of_settled hold settled) (Broker.Memory.drop_deadLetters ..)
    fun h => h

end Settling

theorem HandlingStanding.exchange {s : HandlingStanding} {key : String} (ho : s.Orderly)
    (hr : s.allows x d r) (ha : m.Answers r a m')
    (hp : Traffic.undisturbed id (.answered ⟨r, a⟩) = true) (hn : m.now < horizon)
    (hl : horizon ≤ m.now + x.idempotency.markerTtl.nanos)
    (hold : ∃ c, m.broker.held.lookup d.id = some ⟨d.message, c, s.isSettled⟩) :
    HandlingStanding.Effect s (s.after ⟨r, a⟩) m m' key horizon := by
  cases r with
  | tally k => cases ha; exact .of_same ho rfl rfl rfl rfl rfl rfl fun h => h
  | pause t => cases ha; exact .of_same ho rfl rfl rfl rfl rfl rfl fun h => h
  | process e limit =>
    obtain ⟨-, -, rfl⟩ := hr
    cases ha
    cases a <;> exact .of_same (.of_posted_eq_zero rfl rfl) rfl rfl rfl rfl rfl rfl fun h => h
  | reply tenant conversation text isPrivate =>
    obtain ⟨e, -, -, -, -, rfl⟩ := hr
    rcases ha with ⟨rfl, rfl⟩ | ⟨⟨e, rfl⟩, rfl⟩
    · refine ⟨⟨rfl, Nat.le_refl _, fun _ => rfl⟩, ?_, rfl, .inl ⟨rfl, fun h => h⟩⟩
      simp [after]
    · exact .of_same (.of_posted_eq_zero rfl rfl) rfl rfl rfl rfl rfl rfl fun h => h
  | publish e deadline =>
    obtain ⟨rfl, -⟩ := hr
    rcases ha with ⟨rfl, rfl⟩ | ⟨failed, rfl⟩
    · refine ⟨.of_posted_eq_zero rfl rfl, rfl, ?_, .inl ⟨?_, fun h => h⟩⟩
      · simp [after, owns, Broker.Memory.push, Nat.add_comm, Nat.add_left_comm]
      · simp [after, bears, Broker.Memory.push, Nat.add_comm]
    · rw [after_publish_of_ne failed]
      exact .of_same ho rfl rfl rfl rfl rfl rfl fun h => h
  | settle number how =>
    rcases ha with ⟨rfl, rfl⟩ | ⟨⟨e, rfl⟩, -⟩
    · cases how with
      | ack => exact effect_of_ack hold ho hr
      | reject => exact effect_of_reject hold hr
    · cases hp
  | drop number =>
    cases ha
    exact effect_of_drop hold ho hr
  | store call limit =>
    cases call with
    | set k value ttl =>
      obtain ⟨e, -, -, -, rfl, -⟩ := hr
      rcases ha with ⟨rfl, rfl⟩ | ⟨⟨e, rfl⟩, -⟩
      · exact .of_same ho rfl rfl rfl rfl rfl rfl fun h => h.perform hn fun _ => hl
      · cases hp
    | delete k =>
      obtain ⟨done, _, -, rejected, released, -⟩ := hr
      rcases ha with ⟨rfl, rfl⟩ | ⟨⟨e, rfl⟩, -⟩
      · refine ⟨⟨ho.settled, ho.posted, ho.succeeded⟩, rfl, rfl, .inr ?_⟩
        simp [after, bears, rejected, released]
        omega
      · cases hp
    | _ => exact hr.elim
  | _ => exact hr.elim

end Exchanges

namespace Traffic

def lockCount (s : Traffic) : Nat :=
  s.intakes.countP (·.standing.holds) + s.world.broker.ready.length +
    s.handlings.countP (·.standing.bears)

/-- What is so in undisturbed traffic until the lock or the marker may expire. -/
structure Guarded (g : Gateway) (id : CorrelationId) (since horizon : Moment) (s : Traffic) :
    Prop where
  aged : since ≤ s.world.now
  ids : ∀ i ∈ s.intakes, i.event.correlationId? = some id
  orderly : ∀ h ∈ s.handlings, h.standing.Orderly
  sent : s.world.sent.length = (s.handlings.map (·.standing.posted)).sum
  tasks : s.intakes.countP (·.standing.isEnqueued) =
    s.handlings.countP (·.standing.owns) + s.world.broker.ready.length +
      s.world.broker.deadLetters.length
  single : s.lockCount ≤ 1
  locked : 0 < s.lockCount → s.world.store.Lasts (g.idempotency.lockKey id) horizon

variable {g : Gateway} {x : TaskHandler} {id : CorrelationId} {since horizon : Moment}
  {s s' : Traffic} {what : Happening}

theorem Guarded.intake (hs : s.Guarded g id since horizon) {as bs : List Intake} {i i' : Intake}
    {w : World} (l : Ledger) (hl : s.intakes = as ++ i :: bs) (event : i'.event = i.event)
    (hn : s.world.now ≤ w.now)
    (effect : IntakeStanding.Effect i.standing i'.standing s.world.record w.record
      (g.idempotency.lockKey id) horizon) :
    Guarded g id since horizon
      { s with world := w, intakes := as ++ i' :: bs, ledger := l } := by
  obtain ⟨aged, ids, orderly, sent, tasks, single, locked⟩ := hs
  obtain ⟨sent', dead', enqueued, lock⟩ := effect
  unfold lockCount at single locked
  simp only [World.record] at sent' dead' enqueued lock
  rw [hl, countP_middle] at tasks single locked
  refine ⟨Nat.le_trans aged hn, forall_mem_replaced hl ids ?_, orderly, ?_, ?_, ?_, fun held => ?_⟩
  · rw [event]
    exact ids i (by simp [hl])
  · change w.sent.length = _
    rw [sent', sent]
  · simp only [countP_middle, dead']
    omega
  · unfold lockCount
    simp only [countP_middle]
    rcases lock with ⟨h, -⟩ | h | ⟨h, free, -⟩
    · omega
    · omega
    · have := mt locked free
      omega
  · unfold lockCount at held
    simp only [countP_middle] at held
    rcases lock with ⟨h, kept⟩ | h | ⟨-, -, taken⟩
    · exact kept (locked (by omega))
    · omega
    · exact taken

theorem Guarded.handling (hs : s.Guarded g id since horizon) {as bs : List Handling}
    {h h' : Handling} {w : World} (l : Ledger) (hl : s.handlings = as ++ h :: bs)
    (hn : s.world.now ≤ w.now)
    (effect : HandlingStanding.Effect h.standing h'.standing s.world.record w.record
      (g.idempotency.lockKey id) horizon) :
    Guarded g id since horizon
      { s with world := w, handlings := as ++ h' :: bs, ledger := l } := by
  obtain ⟨aged, ids, orderly, sent, tasks, single, locked⟩ := hs
  obtain ⟨orderly', sent', tasks', lock⟩ := effect
  unfold lockCount at single locked
  simp only [World.record] at sent' tasks' lock
  rw [hl, countP_middle] at tasks single locked
  rw [hl] at sent
  refine ⟨Nat.le_trans aged hn, ids, forall_mem_replaced hl orderly orderly', ?_, ?_, ?_,
    fun held => ?_⟩
  · simp only [List.map_append, List.map_cons, List.sum_append, List.sum_cons] at sent ⊢
    omega
  · simp only [countP_middle]
    omega
  · unfold lockCount
    simp only [countP_middle]
    omega
  · unfold lockCount at held
    simp only [countP_middle] at held
    rcases lock with ⟨_, kept⟩ | _
    · exact kept (locked (by omega))
    · omega

/-- An event that has just arrived has no lock yet. -/
theorem Guarded.arrive (hs : s.Guarded g id since horizon) {event : Event}
    (hid : event.correlationId? = some id) :
    Guarded g id since horizon
      { s with intakes := s.intakes ++ [⟨event, { rest := g.handle event }⟩] } := by
  obtain ⟨aged, ids, orderly, sent, tasks, single, locked⟩ := hs
  have idle : Intake.standing ⟨event, { rest := g.handle event }⟩ = .looking := rfl
  refine ⟨aged, List.forall_mem_append.2 ⟨ids, List.forall_mem_singleton.2 hid⟩, orderly, sent, ?_,
    ?_, ?_⟩
  · simpa [List.countP_append, idle, IntakeStanding.isEnqueued] using tasks
  · simpa [lockCount, List.countP_append, idle, IntakeStanding.holds] using single
  · simpa [lockCount, List.countP_append, idle, IntakeStanding.holds] using locked

/-- The lock stands for a message first, and then for the handling of its delivery. -/
theorem Guarded.take (hs : s.Guarded g id since horizon) {consumer : Option Broker.ConsumerId}
    {d : Broker.Delivery} {b : Broker.Memory} (ht : s.world.broker.take consumer = some (d, b)) :
    (taking x s d b).Guarded g id since horizon := by
  obtain ⟨rest, ready, ready', -, -, dead, -⟩ := Broker.Memory.take_eq_some ht
  obtain ⟨aged, ids, orderly, sent, tasks, single, locked⟩ := hs
  have idle (o : Option Nat) : Handling.standing ⟨d, o, s.world, { rest := x.serve d }⟩ = {} := rfl
  have owned : HandlingStanding.owns {} = true := rfl
  have borne : HandlingStanding.bears {} = true := rfl
  rw [ready, List.length_cons] at tasks
  unfold lockCount at single locked
  rw [ready, List.length_cons] at single locked
  refine ⟨aged, ids, List.forall_mem_append.2 ⟨orderly, List.forall_mem_singleton.2 ?_⟩, ?_, ?_,
    ?_, fun held => locked ?_⟩
  · rw [idle]
    exact .of_posted_eq_zero rfl rfl
  · simpa [taking, idle] using sent
  · simp only [taking, List.countP_append, List.countP_singleton, idle, owned, ready', dead, if_true]
    omega
  · simp only [taking, lockCount, List.countP_append, List.countP_singleton, idle, borne, ready',
      if_true]
    omega
  · simp only [taking, lockCount, ready'] at held
    omega

theorem Guarded.drift (hs : s.Guarded g id since horizon) {w : World} (hd : s.world.Drifts w) :
    Guarded g id since horizon { s with world := w } := by
  obtain ⟨aged, ids, orderly, sent, tasks, single, locked⟩ := hs
  have stores : w.store = s.world.store := congrArg Record.store hd.2
  have brokers : w.broker = s.world.broker := congrArg Record.broker hd.2
  have replies : w.sent = s.world.sent := congrArg Record.sent hd.2
  unfold lockCount at single locked
  refine ⟨Nat.le_trans aged hd.1, ids, orderly, ?_, ?_, ?_, ?_⟩
  · rw [replies]; exact sent
  · rw [brokers]; exact tasks
  · unfold lockCount; rw [brokers]; exact single
  · unfold lockCount; rw [brokers, stores]; exact locked

/-- Undisturbed traffic stays guarded until the horizon. -/
theorem Guarded.step (hs : s.Guarded g id since horizon) (sound : s.Sound g x)
    (hp : undisturbed id what = true) (h : Step g x s what s') (hn : s'.world.now < horizon)
    (hl : horizon ≤ since + g.idempotency.lockTtl.nanos)
    (hm : horizon ≤ since + x.idempotency.markerTtl.nanos) :
    s'.Guarded g id since horizon := by
  have early : s.world.now < horizon := Nat.lt_of_le_of_lt h.now_le hn
  have young (age : Nat) (hage : horizon ≤ since + age) : horizon ≤ s.world.now + age :=
    Nat.le_trans hage (Nat.add_le_add_right hs.aged _)
  cases h with
  | arrive event => exact hs.arrive (of_decide_eq_true hp)
  | take ht => exact hs.take ht
  | @intake as bs i t w what hl' ht =>
    have hi : i ∈ s.intakes := by simp [hl']
    refine hs.intake _ hl' rfl (Nat.le_of_eq ht.now_eq.symm) ?_
    cases sound.intake_advances hi ht with
    | asked _ still same =>
      refine .of_same still ?_ ?_ ?_ ?_
      all_goals simp [same]
    | answered hr ha _ next =>
      rw [next]
      exact IntakeStanding.exchange (hs.ids i hi) hr ha hp early (young _ hl)
  | @handling as bs h t w what hl' ht =>
    have hh : h ∈ s.handlings := by simp [hl']
    refine hs.handling _ hl' (Nat.le_of_eq ht.now_eq.symm) ?_
    cases sound.handling_advances hh ht with
    | asked _ still same =>
      rw [still]
      exact .of_same (hs.orderly h hh) rfl rfl rfl (by rw [same]) (by rw [same]) (by rw [same])
        (by rw [same]; exact fun h => h)
    | answered hr ha _ next hold =>
      rw [next]
      exact HandlingStanding.exchange (hs.orderly h hh) hr ha hp early (young _ hm) hold
  | crashIntake => cases hp
  | crashHandling => cases hp
  | drift hd => exact hs.drift hd
  | intrude store => cases hp

/-- Whoever held the lock before is of no account: the lock must be free to be taken. -/
theorem Guarded.of_fresh (hs : s.Fresh) : s.Guarded g id s.world.now horizon := by
  obtain ⟨intakes, handlings, ready, dead, -, sent⟩ := hs
  have free : s.lockCount = 0 := by simp [lockCount, intakes, handlings, ready]
  refine ⟨Nat.le_refl _, ?_, ?_, ?_, ?_, by omega, by omega⟩
  · simp [intakes]
  · simp [handlings]
  · simp [handlings, sent]
  · simp [intakes, handlings, ready, dead]

theorem Guarded.reaches {start : Traffic} (fresh : start.Fresh)
    (run : Reaches g x (undisturbed id) start s) (hn : s.world.now < horizon)
    (hl : horizon ≤ start.world.now + g.idempotency.lockTtl.nanos)
    (hm : horizon ≤ start.world.now + x.idempotency.markerTtl.nanos) :
    s.Guarded g id start.world.now horizon := by
  induction run with
  | refl => exact .of_fresh fresh
  | step run hp hstep ih =>
    have sound := (Sound.of_idle (g := g) (x := x) fresh.intakes fresh.handlings).reaches run
    exact (ih (Nat.lt_of_le_of_lt hstep.now_le hn)).step sound hp hstep hn hl hm

end Traffic

namespace Handling

variable {g : Gateway} {x : TaskHandler} {s : Traffic} {h : Handling}

theorem bears_of_live (hs : s.Sound g x) (hh : h ∈ s.handlings) (ho : h.standing.Orderly)
    (live : (h.inFlight s.world.broker && !h.thread.past.hasPublished) = true) :
    h.standing.bears = true := by
  obtain ⟨flying, kept⟩ := Bool.and_eq_true_iff.1 live
  have custody := hs.custody h hh
  unfold Handling.Custody at custody
  unfold inFlight at flying
  split at custody
  · rw [custody] at flying
    cases flying
  · obtain ⟨c, hold⟩ := custody
    rw [hold] at flying
    have settled := ho.settled
    unfold HandlingStanding.isSettled at flying
    unfold HandlingStanding.bears
    cases how : h.standing.settlement with
    | none =>
      rwa [← TaskHandler.passedOn_eq (x := x) (d := h.delivery)] at kept
    | some p =>
      rw [how] at settled flying
      simp_all

theorem bears_of_isProcessing (hs : s.Sound g x) (hh : h ∈ s.handlings)
    (busy : h.isProcessing = true) : h.standing.bears = true := by
  have rest := (hs.handlings h hh).rest
  unfold isProcessing at busy
  split at busy
  next heq =>
    rw [heq] at rest
    obtain ⟨-, -, begun⟩ := rest.1
    have begun : h.standing = {} := by
      unfold standing
      rw [heq]
      exact begun
    rw [begun]
    rfl
  · cases busy

end Handling

namespace Traffic

variable {g : Gateway} {x : TaskHandler} {id : CorrelationId} {start s : Traffic}

/-- Of a task whose id everything carries there is one live copy at most, and the lock stands while
there is one. It is processed by one worker at a time, it is accepted again only after it went to
the dead letters, and it is replied to once at most. -/
theorem single_flight (fresh : start.Fresh) (run : Reaches g x (undisturbed id) start s)
    (locked : s.world.now < start.world.now + g.idempotency.lockTtl.nanos)
    (marked : s.world.now < start.world.now + x.idempotency.markerTtl.nanos) :
    s.liveCopies ≤ 1 ∧
      (0 < s.liveCopies →
        (s.world.store.peek s.world.now (g.idempotency.lockKey id)).isSome = true) ∧
      s.handlings.countP Handling.isProcessing ≤ 1 ∧
      s.intakes.countP Intake.isAccepted ≤ s.world.broker.deadLetters.length + 1 ∧
      s.world.sent.length ≤ 1 := by
  have sound := (Sound.of_idle (g := g) (x := x) fresh.intakes fresh.handlings).reaches run
  have guarded := Guarded.reaches fresh run (Nat.lt_min.2 ⟨locked, marked⟩)
    (Nat.min_le_left ..) (Nat.min_le_right ..)
  obtain ⟨-, -, orderly, sent, tasks, single, lock⟩ := guarded
  have live : s.liveCopies ≤ s.lockCount := by
    have bear :
        s.handlings.countP (fun h => h.inFlight s.world.broker && !h.thread.past.hasPublished) ≤
          s.handlings.countP (·.standing.bears) :=
      List.countP_mono_left fun h hh hl => h.bears_of_live sound hh (orderly h hh) hl
    unfold liveCopies lockCount
    omega
  have processing : s.handlings.countP Handling.isProcessing ≤ s.lockCount := by
    have bear : s.handlings.countP Handling.isProcessing ≤
        s.handlings.countP (·.standing.bears) :=
      List.countP_mono_left fun h hh hb => h.bears_of_isProcessing sound hh hb
    unfold lockCount
    omega
  have accepted : s.intakes.countP Intake.isAccepted ≤
      s.intakes.countP (·.standing.isEnqueued) :=
    List.countP_mono_left fun i hi ha => by rw [sound.standing_of_isAccepted hi ha]; rfl
  have own : s.handlings.countP (·.standing.owns) ≤ s.handlings.countP (·.standing.bears) := by
    refine List.countP_mono_left fun h _ ho => ?_
    unfold HandlingStanding.owns at ho
    unfold HandlingStanding.bears
    split at ho
    · cases ho
    · exact ho
  have replies : (s.handlings.map (·.standing.posted)).sum ≤
      s.handlings.countP (·.standing.bears) :=
    sum_map_le_countP fun h hh => (orderly h hh).posted_le_bears
  unfold lockCount at single
  refine ⟨by unfold lockCount at live; omega, fun h => ?_, ?_, by omega, by omega⟩
  · exact (lock (Nat.lt_of_lt_of_le h live)).peek_isSome (Nat.lt_min.2 ⟨locked, marked⟩)
  · unfold lockCount at processing
    omega

/-- Of two events that arrive together one is accepted, and its task is replied to while the lock
stands. -/
theorem single_flight_of_two_arrivals :
    ∃ s, Reaches {} {} (undisturbed .greeting) quiet s ∧ s.liveCopies = 1 ∧
      s.world.sent.length = 1 ∧ s.intakes.map Intake.isAccepted = [true, false] ∧
      (s.world.store.peek s.world.now (Idempotency.lockKey {} .greeting)).isSome = true := by
  obtain ⟨s, run, hs⟩ := reaches_of_play? {} {} (undisturbed .greeting) quiet
    ([Move.arrive .greeting, Move.arrive .greeting] ++ List.replicate 4 (Move.intake 0) ++
      List.replicate 4 (Move.intake 1) ++ Move.wait 7 :: List.replicate 8 (Move.intake 0) ++
      Move.take :: List.replicate 6 (Move.handling 0))
    (fun s => s.world.now == 7 && s.liveCopies == 1 && s.world.sent.length == 1 &&
      s.intakes.map Intake.isAccepted == [true, false])
    (by decide +kernel)
  simp only [Bool.and_eq_true, beq_iff_eq] at hs
  obtain ⟨⟨⟨time, live⟩, sent⟩, accepted⟩ := hs
  have flight := single_flight ⟨rfl, rfl, rfl, rfl, rfl, rfl⟩ run
    (by rw [time]; decide) (by rw [time]; decide)
  exact ⟨s, run, live, sent, accepted, flight.2.1 (by omega)⟩

end Traffic
end ReplyPipeline
