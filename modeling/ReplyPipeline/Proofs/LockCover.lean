import ReplyPipeline.Proofs.Draining
import ReplyPipeline.Proofs.LiveCopies

/-!
# The lock over the copies of a task

Traffic about any ids, in which the store answers every call and nothing is cut off. While it is
younger than it can get, the lock of an id stands for what there is of its task: an intake that has
taken it, or else the copies in the queue and in the hands of workers. Under a live copy it is
removed in one way only: by a worker who gives up a task of which there is still a copy, because the
delivery could not be rejected, or because another delivery, whose task had been published again,
could not be acknowledged. Where this has not happened a replay is refused
(`Traffic.lock_stands_for_copies`); where it has, the task is taken for a new one
(`Traffic.locks_not_all_standing`).
-/
namespace ReplyPipeline

/-- How many have a lock in order to publish, how many copies there are, and what goes with it: the
lock is there, there was no second copy, and no copy was given up. -/
structure LockBalance (holders copies : Nat) (locked whole intact : Prop) : Prop where
  single : holders ≤ 1
  exclusive : 0 < holders → copies = 0
  locked : 0 < holders + copies → locked
  whole : whole → copies ≤ 1
  intact : intact → 0 < copies

namespace LockBalance

variable {holders copies : Nat} {locked locked' whole whole' intact intact' : Prop}

theorem same (h : LockBalance holders copies locked whole intact) (hl : locked → locked')
    (hw : whole' → whole) (hi : intact' → intact) :
    LockBalance holders copies locked' whole' intact' :=
  ⟨h.single, h.exclusive, fun some => hl (h.locked some), fun w => h.whole (hw w),
    fun i => h.intact (hi i)⟩

theorem taken (h : LockBalance holders copies locked whole intact) (free : ¬ locked)
    (hl : locked') : LockBalance (holders + 1) copies locked' whole intact := by
  have none := mt h.locked free
  exact ⟨by omega, fun _ => by omega, fun _ => hl, h.whole, h.intact⟩

theorem givenBack (h : LockBalance (holders + 1) copies locked whole intact) :
    LockBalance holders copies locked' whole intact := by
  have one := h.single
  have none := h.exclusive (Nat.succ_pos _)
  exact ⟨by omega, fun _ => none, fun some => absurd some (by omega), h.whole, h.intact⟩

theorem enqueued (h : LockBalance (holders + 1) copies locked whole intact)
    (hl : locked → locked') : LockBalance holders (copies + 1) locked' whole intact := by
  have one := h.single
  have none := h.exclusive (Nat.succ_pos _)
  exact ⟨by omega, fun some => absurd some (by omega), fun _ => hl (h.locked (by omega)),
    fun _ => by omega, fun _ => Nat.succ_pos _⟩

/-- A second copy comes of a delivery that could not be acknowledged, beside one that is there. -/
theorem split (h : LockBalance holders copies locked whole intact) (hl : locked → locked')
    (hw : ¬ whole') (hi : intact) : LockBalance holders (copies + 1) locked' whole' intact' := by
  have some := h.intact hi
  have one := h.exclusive
  exact ⟨h.single, fun held => absurd (one held) (by omega), fun _ => hl (h.locked (by omega)),
    fun w => absurd w hw, fun _ => Nat.succ_pos _⟩

/-- The only copy is given up. -/
theorem buried (h : LockBalance holders (copies + 1) locked whole intact) (hw : whole)
    (hi : ¬ intact') : LockBalance holders copies locked' whole' intact' := by
  have one := h.whole hw
  have none := h.exclusive
  exact ⟨h.single, fun held => absurd (none held) (by omega), fun some => absurd some (by omega),
    fun _ => by omega, fun i => absurd i hi⟩

end LockBalance

namespace Traffic

variable {g : Gateway} {x : TaskHandler} {id : CorrelationId} {since till : Moment}
  {start s s' : Traffic} {what : Happening}

/-- No delivery of a task has been left unacknowledged after the task had been published again. -/
def IsWhole (s : Traffic) (id : CorrelationId) : Prop :=
  ∀ h ∈ s.handlings, h.delivery.message.isAbout id = true → h.standing.isSplit = false

/-- No delivery of a task was settled in some way. -/
def NeverSettled (s : Traffic) (id : CorrelationId) (p : Broker.Settlement × Bool) : Prop :=
  ∀ h ∈ s.handlings, h.delivery.message.isAbout id = true → h.standing.settlement ≠ some p

/-- A task has been handled, and no copy of it was given up. -/
def IsIntact (s : Traffic) (id : CorrelationId) : Prop :=
  (∃ h ∈ s.handlings, h.delivery.message.isAbout id = true) ∧ s.NeverSettled id (.reject, true)

/-- What has happened to the deliveries of a task lets its lock be removed only when there is no
other copy. -/
structure Unharmed (g : Gateway) (id : CorrelationId) (s : Traffic) : Prop where
  /-- Whatever was given up was rejected. -/
  rejected : s.NeverSettled id (.reject, false)
  /-- There was never a second copy, or no copy was given up. -/
  alone : s.IsWhole id ∨ s.NeverSettled id (.reject, true)
  /-- A marker that is kept where the lock stands does not expire before it. -/
  marked : g.idempotency.lockTtl.nanos ≤ g.idempotency.markerTtl.nanos ∨
    ∀ h ∈ s.handlings, h.delivery.message.correlationId ≠ some ("lock:" ++ id.text)

/-- The deliveries of before are there, and what has happened to them has not ceased to have
happened. -/
def Remembers (s s' : Traffic) : Prop :=
  ∀ h ∈ s.handlings, ∃ h' ∈ s'.handlings, h'.delivery = h.delivery ∧ h.standing.Grows h'.standing

theorem Remembers.of_mem (h : ∀ k ∈ s.handlings, k ∈ s'.handlings) : s.Remembers s' :=
  fun k hk => ⟨k, h k hk, rfl, .refl _⟩

theorem Remembers.of_handling {as bs : List Handling} {h h' : Handling}
    (hl : s.handlings = as ++ h :: bs) (hl' : s'.handlings = as ++ h' :: bs)
    (hd : h'.delivery = h.delivery) (grows : h.standing.Grows h'.standing) : s.Remembers s' := by
  intro k hk
  rw [hl] at hk
  rcases mem_append_cons.1 hk with rfl | hk
  · exact ⟨h', by simp [hl'], hd, grows⟩
  · exact ⟨k, by rw [hl']; exact mem_append_cons.2 (.inr hk), rfl, .refl _⟩

theorem Step.remembers (sound : s.Sound g x) (h : Step g x s what s') : s.Remembers s' := by
  cases h with
  | take ht => exact .of_mem fun k hk => List.mem_append_left _ hk
  | @handling as bs h t w what hl ht =>
    refine .of_handling hl rfl rfl ?_
    cases sound.handling_advances (h := h) (by simp [hl]) ht with
    | asked _ still _ =>
      rw [still]
      exact .refl _
    | answered hr _ _ next _ =>
      rw [next]
      exact HandlingStanding.grows_after hr _
  | crashHandling hl => exact .of_handling hl rfl rfl (.refl _)
  | _ => exact .of_mem fun k hk => hk

namespace Remembers

variable (same : s.Remembers s')
include same

theorem isWhole (h : s'.IsWhole id) : s.IsWhole id := by
  intro k hk about
  obtain ⟨k', hk', delivery, grows⟩ := same k hk
  have whole := h k' hk' (by rw [delivery]; exact about)
  exact Bool.eq_false_iff.2 fun split => Bool.eq_false_iff.1 whole (grows.isSplit split)

theorem neverSettled {p : Broker.Settlement × Bool} (h : s'.NeverSettled id p) :
    s.NeverSettled id p := by
  intro k hk about how
  obtain ⟨k', hk', delivery, grows⟩ := same k hk
  exact h k' hk' (by rw [delivery]; exact about) (grows.settlement _ how)

theorem unharmed (h : s'.Unharmed g id) : s.Unharmed g id := by
  refine ⟨same.neverSettled h.rejected, h.alone.imp same.isWhole same.neverSettled,
    h.marked.imp_right fun never k hk => ?_⟩
  obtain ⟨k', hk', delivery, -⟩ := same k hk
  rw [← delivery]
  exact never k' hk'

end Remembers

/-- All messages are tasks. -/
structure CarriesTasks (s : Traffic) : Prop where
  waiting : ∀ m ∈ s.world.broker.ready, m.IsTask
  handled : ∀ h ∈ s.handlings, h.delivery.message.IsTask

theorem CarriesTasks.step (hs : s.CarriesTasks) (sound : s.Sound g x) (hp : responsive what = true)
    (h : Step g x s what s') : s'.CarriesTasks := by
  obtain ⟨waiting, handled⟩ := hs
  cases h with
  | arrive event => exact ⟨waiting, handled⟩
  | take ht =>
    obtain ⟨rest, ready, ready', -⟩ := Broker.Memory.take_eq_some ht
    rw [ready] at waiting
    obtain ⟨task, waiting⟩ := List.forall_mem_cons.1 waiting
    exact ⟨ready' ▸ waiting, List.forall_mem_append.2 ⟨handled, List.forall_mem_singleton.2 task⟩⟩
  | @intake as bs i t w what hl ht =>
    refine ⟨?_, handled⟩
    cases sound.intake_advances (i := i) (by simp [hl]) ht with
    | asked _ _ same =>
      rw [show w.broker = s.world.broker from congrArg Record.broker same]
      exact waiting
    | answered hr ha =>
      have change : QueueChange Broker.Message.IsTask none s.ledger _ s.world.broker w.broker :=
        .of_intake hr ha fun e _ _ => Broker.Message.isTask_ofEnvelope e
      exact change.forall_ready waiting
  | @handling as bs h t w what hl ht =>
    have hh : h ∈ s.handlings := by simp [hl]
    have task := handled h hh
    refine ⟨?_, forall_mem_replaced hl handled task⟩
    cases sound.handling_advances hh ht with
    | asked _ _ same =>
      rw [show w.broker = s.world.broker from congrArg Record.broker same]
      exact waiting
    | answered hr ha _ _ hold =>
      have change : QueueChange Broker.Message.IsTask none s.ledger _ s.world.broker w.broker :=
        .of_handling hr ha hold task task.returned fun e _ => Broker.Message.isTask_ofEnvelope _
      exact change.forall_ready waiting
  | crashIntake => cases hp
  | crashHandling => cases hp
  | @drift w hd =>
    refine ⟨?_, handled⟩
    rw [show w.broker = s.world.broker from congrArg Record.broker hd.2]
    exact waiting
  | intrude store => cases hp

theorem CarriesTasks.reaches (hs : start.CarriesTasks) (sound : start.Sound g x)
    (run : Reaches g x responsive start s) : s.CarriesTasks := by
  induction run with
  | refl => exact hs
  | step run hp h ih => exact ih.step (sound.reaches run) hp h

/-- What is so until a lock may expire, if nothing harmed the copies of its task. -/
structure Covered (g : Gateway) (id : CorrelationId) (since till : Moment) (s : Traffic) :
    Prop where
  aged : since ≤ s.world.now
  balance : LockBalance (s.holders id) (s.copies id)
    (s.world.store.Lasts (g.idempotency.lockKey id) till) (s.IsWhole id) (s.IsIntact id)

theorem Covered.intake (hs : s.Covered g id since till) {as bs : List Intake} {i i' : Intake}
    {w : World} (l : Ledger) (hl : s.intakes = as ++ i :: bs) (later : s.world.now ≤ w.now)
    (use : LockUse (g.idempotency.lockKey id) till (i.holds id) (i'.holds id)
      (s.world.broker.ready.countP (·.isAbout id)) (w.broker.ready.countP (·.isAbout id))
      s.world.store w.store) :
    Covered g id since till { s with world := w, intakes := as ++ i' :: bs, ledger := l } := by
  obtain ⟨aged, balance⟩ := hs
  refine ⟨Nat.le_trans aged later, ?_⟩
  unfold holders copies at balance ⊢
  rw [hl, countP_middle] at balance
  simp only [countP_middle]
  cases use with
  | same holds ready lasts =>
    rw [holds, ready]
    exact balance.same lasts (fun h => h) fun h => h
  | taken before holds ready free lasts =>
    rw [before] at balance
    rw [holds, ready]
    exact balance.taken free lasts
  | givenBack before holds ready =>
    rw [before] at balance
    rw [holds, ready]
    exact balance.givenBack
  | enqueued before holds ready lasts =>
    rw [before] at balance
    rw [holds, ready, Nat.add_right_comm]
    exact balance.enqueued lasts

section OneHandling

variable {as bs : List Handling} {h h' : Handling} (hl : s.handlings = as ++ h :: bs)
  (hl' : s'.handlings = as ++ h' :: bs) (hd : h'.delivery = h.delivery)
include hl hl' hd

/-- The copies of a task change as the queue and the handling of one of them do. -/
theorem copies_replaced (about : h.delivery.message.isAbout id = true) :
    s'.copies id + (s.world.broker.ready.countP (·.isAbout id) + h.standing.upholds.toNat) =
      s.copies id + (s'.world.broker.ready.countP (·.isAbout id) + h'.standing.upholds.toNat) := by
  have before : h.upholds id = h.standing.upholds := by
    rw [Handling.upholds, about, Bool.true_and]
  have after : h'.upholds id = h'.standing.upholds := by
    rw [Handling.upholds, hd, about, Bool.true_and]
  rw [copies, copies, hl, hl', countP_middle, countP_middle, before, after]
  omega

/-- A handling that goes on without changing its part leaves the copies to the queue. -/
theorem copies_eq_of_upholds
    (upholds : h.delivery.message.isAbout id = true → h'.standing.upholds = h.standing.upholds)
    (ready : s'.world.broker.ready.countP (·.isAbout id) =
      s.world.broker.ready.countP (·.isAbout id)) : s'.copies id = s.copies id := by
  have kept : h'.upholds id = h.upholds id := by
    unfold Handling.upholds
    rw [hd]
    cases about : h.delivery.message.isAbout id with
    | true => rw [upholds about]
    | false => rfl
  rw [copies, copies, hl, hl', countP_middle, countP_middle, kept, ready]

theorem IsIntact.of_handling (intact : s'.IsIntact id) (remembers : s.Remembers s') :
    s.IsIntact id := by
  obtain ⟨⟨k, hk, about⟩, never⟩ := intact
  refine ⟨?_, remembers.neverSettled never⟩
  rw [hl'] at hk
  rcases mem_append_cons.1 hk with rfl | hk
  · exact ⟨h, by simp [hl], by rw [← hd]; exact about⟩
  · exact ⟨k, by rw [hl]; exact mem_append_cons.2 (.inr hk), about⟩

end OneHandling

theorem Covered.handling (hs : s.Covered g id since till) {as bs : List Handling}
    {h h' : Handling} {w : World} (l : Ledger) (hl : s.handlings = as ++ h :: bs)
    (hd : h'.delivery = h.delivery) (later : s.world.now ≤ w.now)
    (grows : h.standing.Grows h'.standing)
    (unharmed : Unharmed g id { s with world := w, handlings := as ++ h' :: bs, ledger := l })
    (use : CopyUse (g.idempotency.lockKey id) till id h.delivery h.standing h'.standing
      s.world.broker w.broker s.world.store w.store) :
    Covered g id since till { s with world := w, handlings := as ++ h' :: bs, ledger := l } := by
  generalize hs' : { s with world := w, handlings := as ++ h' :: bs, ledger := l } = s'
    at unharmed ⊢
  have hl' : s'.handlings = as ++ h' :: bs := by rw [← hs']
  obtain rfl : s'.world = w := by rw [← hs']
  have holders : s'.holders id = s.holders id := by rw [← hs']; rfl
  have mine : h' ∈ s'.handlings := by simp [hl']
  have remembers : s.Remembers s' := .of_handling hl hl' hd grows
  have intact (i : s'.IsIntact id) : s.IsIntact id := i.of_handling hl hl' hd remembers
  obtain ⟨aged, balance⟩ := hs
  refine ⟨Nat.le_trans aged later, ?_⟩
  rw [holders]
  cases use with
  | same upholds ready lasts =>
    rw [copies_eq_of_upholds hl hl' hd upholds ready]
    exact balance.same lasts remembers.isWhole intact
  | moved about before upholds ready lasts =>
    have counts := copies_replaced hl hl' hd about
    rw [ready, before, upholds, Bool.toNat_true, Bool.toNat_false] at counts
    rw [show s'.copies id = s.copies id by omega]
    exact balance.same lasts remembers.isWhole intact
  | split about before upholds split ready lasts =>
    have counts := copies_replaced hl hl' hd about
    rw [ready, before, upholds, Bool.toNat_true, Bool.toNat_false] at counts
    have divided : ¬ s'.IsWhole id := fun whole =>
      Bool.eq_false_iff.1 (whole h' mine (by rw [hd]; exact about)) split
    rw [show s'.copies id = s.copies id + 1 by omega]
    refine balance.split lasts divided ⟨⟨h, by simp [hl], about⟩, remembers.neverSettled ?_⟩
    exact unharmed.alone.resolve_left divided
  | buried about before upholds settled ready =>
    have counts := copies_replaced hl hl' hd about
    rw [ready, before, upholds, Bool.toNat_true, Bool.toNat_false] at counts
    have givenUp : ¬ s'.NeverSettled id (.reject, true) := fun never =>
      never h' mine (by rw [hd]; exact about) settled
    rw [show s.copies id = s'.copies id + 1 by omega] at balance
    refine balance.buried (remembers.isWhole ?_) fun i => givenUp i.2
    exact unharmed.alone.resolve_right givenUp

theorem Covered.take (hs : s.Covered g id since till) {consumer : Option Broker.ConsumerId}
    {d : Broker.Delivery} {b : Broker.Memory} (ht : s.world.broker.take consumer = some (d, b))
    (remembers : s.Remembers (taking x s d b)) : (taking x s d b).Covered g id since till := by
  obtain ⟨rest, ready, ready', -⟩ := Broker.Memory.take_eq_some ht
  obtain ⟨aged, balance⟩ := hs
  have mine (o : Option Nat) : Handling.upholds id ⟨d, o, s.world, { rest := x.serve d }⟩ =
      d.message.isAbout id := Bool.and_true _
  have copies : (taking x s d b).copies id = s.copies id := by
    simp only [Traffic.copies, taking, List.countP_append, List.countP_cons, List.countP_nil, mine,
      ready', ready]
    omega
  have holders : (taking x s d b).holders id = s.holders id := rfl
  refine ⟨aged, ?_⟩
  rw [copies, holders]
  refine ⟨balance.single, balance.exclusive, balance.locked,
    fun whole => balance.whole (remembers.isWhole whole), fun intact => ?_⟩
  obtain ⟨⟨k, hk, about⟩, never⟩ := intact
  rcases List.mem_append.1 hk with hk | hk
  · exact balance.intact ⟨⟨k, hk, about⟩, remembers.neverSettled never⟩
  · rw [List.mem_singleton.1 hk] at about
    have waits : 0 < s.world.broker.ready.countP (·.isAbout id) :=
      List.countP_pos_iff.2 ⟨d.message, by simp [ready], about⟩
    exact Nat.lt_of_lt_of_le waits (Nat.le_add_right ..)

theorem Covered.arrive (hs : s.Covered g id since till) (event : Event) :
    Covered g id since till
      { s with intakes := s.intakes ++ [⟨event, { rest := g.handle event }⟩] } := by
  obtain ⟨aged, balance⟩ := hs
  have idle : Intake.holds id ⟨event, { rest := g.handle event }⟩ = false := by
    simp [Intake.holds, Intake.standing, IntakeStanding.holds]
  refine ⟨aged, ?_⟩
  unfold holders at balance ⊢
  rw [List.countP_append, List.countP_singleton, idle]
  exact balance

theorem Covered.drift (hs : s.Covered g id since till) {w : World} (hd : s.world.Drifts w) :
    Covered g id since till { s with world := w } := by
  obtain ⟨aged, balance⟩ := hs
  have store : w.store = s.world.store := congrArg Record.store hd.2
  have broker : w.broker = s.world.broker := congrArg Record.broker hd.2
  refine ⟨Nat.le_trans aged hd.1, ?_⟩
  unfold copies at balance ⊢
  rw [broker, store]
  exact balance

/-- Traffic that nothing harmed stays covered until the horizon. -/
theorem Covered.step (hs : s.Covered g id since till) (same : x.idempotency = g.idempotency)
    (sound : s.Sound g x) (tasks : s.CarriesTasks) (hp : responsive what = true)
    (h : Step g x s what s') (unharmed : s'.Unharmed g id) (hn : s'.world.now < till)
    (hl : till ≤ since + g.idempotency.lockTtl.nanos) : s'.Covered g id since till := by
  have early : s.world.now < till := Nat.lt_of_le_of_lt h.now_le hn
  have young : till ≤ s.world.now + g.idempotency.lockTtl.nanos :=
    Nat.le_trans hl (Nat.add_le_add_right hs.aged _)
  have remembers := h.remembers sound
  cases h with
  | arrive event => exact hs.arrive event
  | take ht => exact hs.take ht remembers
  | @intake as bs i t w what hl' ht =>
    have hi : i ∈ s.intakes := by simp [hl']
    refine hs.intake _ hl' (Nat.le_of_eq ht.now_eq.symm) ?_
    cases sound.intake_advances hi ht with
    | asked _ still unchanged =>
      have broker : w.broker = s.world.broker := congrArg Record.broker unchanged
      have store : w.store = s.world.store := congrArg Record.store unchanged
      refine .same ?_ (by rw [broker]) (by rw [store]; exact fun h => h)
      unfold Intake.holds
      rw [still]
    | answered hr ha _ next =>
      unfold Intake.holds
      rw [next]
      exact IntakeStanding.lockUse_of_answer hr ha hp early young
  | @handling as bs h t w what hl' ht =>
    have hh : h ∈ s.handlings := by simp [hl']
    have later := Nat.le_of_eq ht.now_eq.symm
    cases sound.handling_advances hh ht with
    | asked _ still unchanged =>
      have broker : w.broker = s.world.broker := congrArg Record.broker unchanged
      have store : w.store = s.world.store := congrArg Record.store unchanged
      refine hs.handling _ hl' rfl later ?_ unharmed ?_
      · rw [still]
        exact .refl _
      · rw [still, broker, store]
        exact .same (fun _ => rfl) rfl fun h => h
    | answered hr ha _ next hold =>
      refine hs.handling _ hl' rfl later ?_ unharmed ?_
      · rw [next]
        exact HandlingStanding.grows_after hr _
      · rw [next, ← same]
        refine HandlingStanding.copyUse_of_answer (tasks.handled h hh) hr ha hp early hold ?_ ?_
        · have rejected := unharmed.rejected { h with thread := t } (by simp)
          rwa [next] at rejected
        · rw [same]
          exact unharmed.marked.imp (fun long => Nat.le_trans young (Nat.add_le_add_left long _))
            fun never => never { h with thread := t } (by simp)
  | crashIntake => cases hp
  | crashHandling => cases hp
  | drift hd => exact hs.drift hd
  | intrude store => cases hp

/-- There is nothing of a task yet. -/
structure LacksTask (s : Traffic) (id : CorrelationId) : Prop where
  intakes : ∀ i ∈ s.intakes, i.event.correlationId? = some id → i.standing ≠ .holding
  waiting : ∀ m ∈ s.world.broker.ready, m.isAbout id = false
  handlings : ∀ h ∈ s.handlings, h.delivery.message.isAbout id = false

/-- Where there is nothing of a task there is nothing to be covered. -/
theorem LacksTask.covered (hs : s.LacksTask id) : s.Covered g id s.world.now till := by
  have holders : s.holders id = 0 := by
    refine List.countP_eq_zero.2 fun i hi holds => ?_
    obtain ⟨own, held⟩ := Bool.and_eq_true_iff.1 holds
    refine hs.intakes i hi (of_decide_eq_true own) ?_
    unfold IntakeStanding.holds at held
    split at held
    · assumption
    · cases held
  have copies : s.copies id = 0 := by
    refine Nat.add_eq_zero_iff.2 ⟨List.countP_eq_zero.2 fun m hm => ?_,
      List.countP_eq_zero.2 fun h hh => ?_⟩
    · rw [hs.waiting m hm]
      exact Bool.false_ne_true
    · rw [Handling.upholds, hs.handlings h hh]
      exact Bool.false_ne_true
  refine ⟨Nat.le_refl _, ?_⟩
  rw [holders, copies]
  refine ⟨Nat.zero_le _, fun _ => rfl, fun some => absurd some (by simp), fun _ => Nat.zero_le _,
    ?_⟩
  rintro ⟨⟨h, hh, about⟩, -⟩
  rw [hs.handlings h hh] at about
  cases about

theorem Covered.reaches (same : x.idempotency = g.idempotency) (sound : start.Sound g x)
    (tasks : start.CarriesTasks) (lacks : start.LacksTask id)
    (run : Reaches g x responsive start s) (unharmed : s.Unharmed g id) (hn : s.world.now < till)
    (hl : till ≤ start.world.now + g.idempotency.lockTtl.nanos) :
    s.Covered g id start.world.now till := by
  induction run with
  | refl => exact lacks.covered
  | step run hp h ih =>
    have sound' := sound.reaches run
    have before := ih ((h.remembers sound').unharmed unharmed) (Nat.lt_of_le_of_lt h.now_le hn)
    exact before.step same sound' (tasks.reaches sound run) hp h unharmed hn hl

/-- There is a live copy of a task: it waits in the queue, or it is in flight and not just being
replaced by a new one. -/
def HasCopy (s : Traffic) (id : CorrelationId) : Prop :=
  (∃ m ∈ s.world.broker.ready, m.isAbout id = true) ∨
    ∃ h ∈ s.handlings, h.delivery.message.isAbout id = true ∧
      h.inFlight s.world.broker = true ∧ h.standing.handsOn = false

/-- A worker whose delivery is in flight still has the copy in hands. -/
theorem Sound.upholds_of_inFlight (sound : s.Sound g x) (never : s.NeverSettled id (.reject, false))
    {h : Handling} (hh : h ∈ s.handlings) (about : h.delivery.message.isAbout id = true)
    (flying : h.inFlight s.world.broker = true) (stays : h.standing.handsOn = false) :
    h.upholds id = true := by
  have custody := sound.custody h hh
  unfold Handling.Custody at custody
  unfold Handling.inFlight at flying
  split at custody
  · rw [custody] at flying
    cases flying
  next open_ =>
    obtain ⟨c, hold⟩ := custody
    rw [hold] at flying
    have unsettled : h.standing.isSettled = false := by simpa using flying
    have here : h.standing.gone = false := by
      unfold Handling.isOver at open_
      simp at open_
      exact open_.1
    have rejected := never h hh about
    unfold HandlingStanding.isSettled at unsettled
    unfold HandlingStanding.handsOn at stays
    unfold Handling.upholds HandlingStanding.upholds
    rw [about, Bool.true_and]
    match how : h.standing.settlement with
    | none => simpa [how] using stays
    | some (.ack, false) => simpa using here
    | some (.reject, false) => exact absurd how rejected
    | some (_, true) => rw [how] at unsettled; cases unsettled

theorem copies_pos (sound : s.Sound g x) (never : s.NeverSettled id (.reject, false))
    (live : s.HasCopy id) : 0 < s.copies id := by
  rcases live with ⟨m, hm, about⟩ | ⟨h, hh, about, flying, stays⟩
  · exact Nat.lt_of_lt_of_le (List.countP_pos_iff.2 ⟨m, hm, about⟩) (Nat.le_add_right ..)
  · have upholds := sound.upholds_of_inFlight never hh about flying stays
    exact Nat.lt_of_lt_of_le (List.countP_pos_iff.2 ⟨h, hh, upholds⟩) (Nat.le_add_left ..)

/-- For as long as a lock lasts since there was nothing of a task: where there is a live copy of it,
and nothing has harmed it, its lock is there, nobody has it in order to publish the task anew, and a
replay is not accepted. -/
theorem lock_stands_for_copies {origin : Traffic} (same : x.idempotency = g.idempotency)
    (fresh : origin.Fresh) (before : Reaches g x responsive origin start)
    (lacks : start.LacksTask id) (run : Reaches g x responsive start s)
    (early : s.world.now < start.world.now + g.idempotency.lockTtl.nanos)
    (unharmed : s.Unharmed g id) (live : s.HasCopy id) :
    s.world.Holds (g.idempotency.lockKey id) ∧
      (∀ i ∈ s.intakes, i.event.correlationId? = some id → i.standing ≠ .holding) ∧
      ∀ (event : Event) (declaring : Nat) (a : GatewayAnswer) (w : World),
        event.correlationId? = some id → s.world.StoreAnswers →
        (g.handle event).carryOut (World.ask declaring) s.world = some (a, w) →
        ∀ tenant conversation, a ≠ .accepted id tenant conversation := by
  have idle := Sound.of_idle (g := g) (x := x) fresh.intakes fresh.handlings
  have sound := idle.reaches before
  have tasks : origin.CarriesTasks := ⟨by simp [fresh.ready], by simp [fresh.handlings]⟩
  obtain ⟨-, balance⟩ := Covered.reaches same sound (tasks.reaches idle before) lacks run unharmed
    early (Nat.le_refl _)
  have some := copies_pos (sound.reaches run) unharmed.rejected live
  have lock : s.world.Holds (g.idempotency.lockKey id) :=
    (balance.locked (Nat.lt_of_lt_of_le some (Nat.le_add_left ..))).peek_isSome early
  refine ⟨lock, fun i hi own holding => ?_, ?_⟩
  · have held : 0 < s.holders id := by
      refine List.countP_pos_iff.2 ⟨i, hi, ?_⟩
      simp [Intake.holds, own, holding, IntakeStanding.holds]
    exact absurd (balance.exclusive held) (Nat.ne_of_gt some)
  · rintro event declaring a w own answers replay tenant conversation rfl
    obtain ⟨a', w', carried, effect⟩ := g.exists_effect declaring event answers
    obtain ⟨rfl, rfl⟩ := Prod.mk.inj (Option.some.inj (carried.symm.trans replay))
    obtain ⟨-, -, rfl, rfl, outcome⟩ := effect.of_accepted
    exact (outcome.accepted.1 rfl).2.1 lock

def failingFirst : Traffic :=
  { world := { quiet.world with script := List.replicate 3 ⟨none, fun _ => .failed .emptyReply⟩ } }

theorem failingFirst_fresh : failingFirst.Fresh := ⟨rfl, rfl, rfl, rfl, rfl, rfl⟩

theorem Fresh.lacksTask (hs : s.Fresh) : s.LacksTask id :=
  ⟨by simp [hs.intakes], by simp [hs.ready], by simp [hs.handlings]⟩

/-- An event is accepted. The first attempt at its task fails and it is published again, but the
delivery cannot be acknowledged and comes back. -/
def splitMoves : List Move :=
  Move.arrive .greeting :: List.replicate 12 (Move.intake 0) ++ Move.take ::
    List.replicate 5 (Move.handling 0) ++ Move.wait (5 * 10 ^ 9) ::
    List.replicate 3 (Move.handling 0) ++ Move.fault .ack 1 :: List.replicate 6 (Move.handling 0)

theorem lock_stands_for_copies_of_split :
    ∃ s, Reaches {} {} responsive failingFirst s ∧ s.Unharmed {} .greeting ∧
      s.world.broker.ready.countP (·.isAbout .greeting) = 2 ∧
      s.world.Holds (Idempotency.lockKey {} .greeting) := by
  obtain ⟨s, run, hs⟩ := reaches_of_play? {} {} responsive failingFirst splitMoves
    (fun s => s.world.now == 5 * 10 ^ 9 &&
      s.world.broker.ready.countP (·.isAbout .greeting) == 2 &&
      s.handlings.all fun h => h.standing.settlement == some (.ack, false))
    (by decide +kernel)
  simp only [Bool.and_eq_true, beq_iff_eq, List.all_eq_true] at hs
  obtain ⟨⟨time, two⟩, settled⟩ := hs
  have never (done : Bool) : s.NeverSettled .greeting (.reject, done) := by
    intro h hh _
    rw [settled h hh]
    simp
  have unharmed : s.Unharmed {} .greeting := ⟨never false, .inr (never true), .inl (by decide)⟩
  obtain ⟨m, hm, about⟩ := List.countP_pos_iff.1 (show 0 < _ by rw [two]; decide)
  have lock := lock_stands_for_copies rfl failingFirst_fresh .refl failingFirst_fresh.lacksTask run
    (by rw [time]; decide) unharmed (.inl ⟨m, hm, about⟩)
  exact ⟨s, run, unharmed, two, lock.1⟩

/-- A task waits, neither its lock nor its marker is there, and a replay is accepted. -/
def isForgotten (s : Traffic) : Bool :=
  s.world.broker.ready.any (·.isAbout .greeting) &&
    !decide (s.world.Holds (Idempotency.lockKey {} .greeting)) &&
    !decide (s.world.Holds (Idempotency.markerKey {} .greeting)) &&
    ((Gateway.handle {} .greeting).carryOut (World.ask 0) s.world).any fun (a, _) =>
      a == .accepted .greeting 0 0

/-- A worker that gives up a task whose delivery cannot be rejected removes the lock, and the task
is back in the queue. -/
theorem exists_forgotten_of_rejection :
    ∃ x s, Reaches {} x responsive failingFirst s ∧ x.idempotency = {} ∧ s.world.now = 0 ∧
      s.isForgotten = true := by
  obtain ⟨s, run, hs⟩ := reaches_of_play? {}
    { retry := { RetryPolicy.standard with maxAttempts := 1 } } responsive failingFirst
    (Move.arrive .greeting :: List.replicate 12 (Move.intake 0) ++ Move.fault .reject 1 ::
      Move.take :: List.replicate 12 (Move.handling 0))
    (fun s => s.world.now == 0 && s.isForgotten) (by decide +kernel)
  obtain ⟨time, forgotten⟩ := Bool.and_eq_true_iff.1 hs
  exact ⟨_, s, run, rfl, beq_iff_eq.1 time, forgotten⟩

/-- So does a worker that gives up one of two copies, though its delivery is rejected. -/
theorem exists_forgotten_of_split :
    ∃ x s, Reaches {} x responsive failingFirst s ∧ x.idempotency = {} ∧
      s.world.now = 10 * 10 ^ 9 ∧ s.NeverSettled .greeting (.reject, false) ∧
      s.isForgotten = true := by
  obtain ⟨s, run, hs⟩ := reaches_of_play? {}
    { retry := { RetryPolicy.standard with maxAttempts := 2 } } responsive failingFirst
    (splitMoves ++ Move.take :: List.replicate 5 (Move.handling 1) ++ Move.wait (5 * 10 ^ 9) ::
      List.replicate 9 (Move.handling 1) ++ Move.take :: List.replicate 12 (Move.handling 2))
    (fun s => s.world.now == 10 * 10 ^ 9 &&
      s.handlings.all (fun h => h.standing.settlement != some (.reject, false)) && s.isForgotten)
    (by decide +kernel)
  simp only [Bool.and_eq_true, beq_iff_eq, List.all_eq_true, bne_iff_ne] at hs
  obtain ⟨⟨time, rejected⟩, forgotten⟩ := hs
  exact ⟨_, s, run, rfl, time, fun h hh _ => rejected h hh, forgotten⟩

/-- The lock or the marker of a task is there, and a replay is not accepted. -/
def RefusesReplays (g : Gateway) (id : CorrelationId) (s : Traffic) : Prop :=
  (s.world.Holds (g.idempotency.lockKey id) ∨ s.world.Holds (g.idempotency.markerKey id)) ∧
    ∀ (event : Event) (a : GatewayAnswer) (w : World), event.correlationId? = some id →
      (g.handle event).carryOut (World.ask 0) s.world = some (a, w) →
      ∀ tenant conversation, a ≠ .accepted id tenant conversation

theorem not_refusesReplays_of_isForgotten (h : s.isForgotten = true) :
    s.HasCopy .greeting ∧ ¬ s.RefusesReplays {} .greeting := by
  simp only [isForgotten, Bool.and_eq_true, Bool.not_eq_true', decide_eq_false_iff_not,
    List.any_eq_true] at h
  obtain ⟨⟨⟨⟨m, hm, about⟩, unlocked⟩, unmarked⟩, -⟩ := h
  exact ⟨.inl ⟨m, hm, about⟩, fun refuses => refuses.1.elim unlocked unmarked⟩

/-- The lock is removed while there is a live copy of its task, and not only where a delivery could
not be rejected. -/
theorem locks_not_all_standing :
    (¬ ∀ (g : Gateway) (x : TaskHandler) (id : CorrelationId) (start s : Traffic),
      x.idempotency = g.idempotency → start.Fresh → Reaches g x responsive start s →
      s.world.now < start.world.now + g.idempotency.lockTtl.nanos → s.HasCopy id →
      s.RefusesReplays g id) ∧
    ¬ ∀ (g : Gateway) (x : TaskHandler) (id : CorrelationId) (start s : Traffic),
      x.idempotency = g.idempotency → start.Fresh → Reaches g x responsive start s →
      s.world.now < start.world.now + g.idempotency.lockTtl.nanos →
      s.NeverSettled id (.reject, false) → s.HasCopy id → s.RefusesReplays g id := by
  constructor
  · intro all
    obtain ⟨x, s, run, same, time, forgotten⟩ := exists_forgotten_of_rejection
    obtain ⟨live, open_⟩ := not_refusesReplays_of_isForgotten forgotten
    exact open_ (all {} x .greeting failingFirst s same failingFirst_fresh run
      (by rw [time]; decide) live)
  · intro all
    obtain ⟨x, s, run, same, time, rejected, forgotten⟩ := exists_forgotten_of_split
    obtain ⟨live, open_⟩ := not_refusesReplays_of_isForgotten forgotten
    exact open_ (all {} x .greeting failingFirst s same failingFirst_fresh run
      (by rw [time]; decide) rejected live)

end Traffic
end ReplyPipeline
