import ReplyPipeline.Proofs.BrokerUsage

/-!
# One delivery at a time

A consumer's window is set when it is handed a message and cleared when that delivery is settled or
goes away. Deliveries that it settled earlier may go away much later, any delivery may be settled
again, and a call that found the window free does not look at it again. However these come together,
a consumer has one open delivery at most, and its window is set just as long as it has one
(`Usage.Run.one_open_delivery`). So it makes no difference that a waiting call does not look again:
`Memory.next`, which does, gives the same (`Usage.Run.next_of_waiting`).
-/
namespace ReplyPipeline.Broker

namespace Memory

/-- The windows say who has what in hands. -/
structure Windows (b : Memory) : Prop where
  one : ∀ c i j, b.InHandsOf c i → b.InHandsOf c j → i = j
  busy : ∀ c, b.HasConsumer c → (b.isBusy c = true ↔ ∃ id, b.InHandsOf c id)
  /-- The next consumer is a new one, and nobody has handed it anything. -/
  consumers : ∀ c, b.HasConsumer c → c < b.nextConsumer
  holders : ∀ c id, b.InHandsOf c id → c < b.nextConsumer
  deliveries : ∀ id h, b.Open id h → id < b.nextDelivery

variable {b b' : Memory} {id j : DeliveryId} {c e : ConsumerId}

theorem Windows.fresh : ({} : Memory).Windows := by
  constructor <;> simp [InHandsOf, Open, HasConsumer]

theorem Windows.of_same (hw : b.Windows) (held : b'.held = b.held)
    (consumers : b'.consumers = b.consumers) (nextConsumer : b'.nextConsumer = b.nextConsumer)
    (nextDelivery : b'.nextDelivery = b.nextDelivery) : b'.Windows := by
  obtain ⟨one, busy, present, holders, deliveries⟩ := hw
  constructor
  all_goals
    simpa only [InHandsOf, Open, HasConsumer, isBusy, held, consumers, nextConsumer, nextDelivery]

/-! ## A delivery is handed out -/

section Take

variable {consumer : Option ConsumerId} {d : Delivery} (ht : b.take consumer = some (d, b'))
include ht

theorem hasConsumer_take : b'.HasConsumer c ↔ b.HasConsumer c := by
  obtain ⟨windows, -⟩ := take_windows ht
  unfold HasConsumer
  rw [windows]
  cases consumer with
  | none => exact Iff.rfl
  | some e => exact hasConsumer_setBusy

theorem isBusy_take (present : ∀ c, consumer = some c → b.HasConsumer c) :
    b'.isBusy e = true ↔ consumer = some e ∨ b.isBusy e = true := by
  obtain ⟨windows, -⟩ := take_windows ht
  cases consumer with
  | none =>
    rw [isBusy, isBusy, windows]
    simp
  | some c =>
    have set := isBusy_setBusy_true (d := e) (present c rfl)
    rw [isBusy] at set ⊢
    rw [windows, set, Option.some_inj, eq_comm]

theorem Windows.inHandsOf_take (hw : b.Windows) :
    b'.InHandsOf e j ↔ j = d.id ∧ consumer = some e ∨ b.InHandsOf e j := by
  obtain ⟨-, -, -, number, -⟩ := take_eq_some ht
  constructor
  · rintro ⟨h, ho, handed⟩
    rcases (open_take ht).1 ho with ⟨rfl, rfl⟩ | ⟨-, ho⟩
    · exact .inl ⟨rfl, handed⟩
    · exact .inr ⟨h, ho, handed⟩
  · rintro (⟨rfl, handed⟩ | ⟨h, ho, handed⟩)
    · exact ⟨_, (open_take ht).2 (.inl ⟨rfl, rfl⟩), handed⟩
    · -- The number of the new delivery is larger than those of the open ones.
      have other : j ≠ d.id := number ▸ Nat.ne_of_lt (hw.deliveries j h ho)
      exact ⟨h, (open_take ht).2 (.inr ⟨other, ho⟩), handed⟩

theorem Windows.take (hw : b.Windows)
    (free : ∀ c, consumer = some c → b.HasConsumer c ∧ b.isBusy c = false) : b'.Windows := by
  obtain ⟨-, -, -, number, next, -⟩ := take_eq_some ht
  have nextConsumer := (take_windows ht).2
  have hands := fun e j => hw.inHandsOf_take (e := e) (j := j) ht
  have nothing : ∀ c, consumer = some c → ∀ j, ¬ b.InHandsOf c j := by
    intro c handed j inHands
    obtain ⟨present, idle⟩ := free c handed
    have busy := (hw.busy c present).2 ⟨j, inHands⟩
    rw [idle] at busy
    cases busy
  constructor
  · intro c i j hi hj
    rcases (hands c i).1 hi with ⟨rfl, handed⟩ | hi <;>
      rcases (hands c j).1 hj with ⟨rfl, again⟩ | hj
    · rfl
    · exact absurd hj (nothing c handed j)
    · exact absurd hi (nothing c again i)
    · exact hw.one c i j hi hj
  · intro c present
    rw [isBusy_take ht fun c handed => (free c handed).1,
      hw.busy c ((hasConsumer_take ht).1 present)]
    constructor
    · rintro (handed | ⟨j, hj⟩)
      · exact ⟨d.id, (hands c d.id).2 (.inl ⟨rfl, handed⟩)⟩
      · exact ⟨j, (hands c j).2 (.inr hj)⟩
    · rintro ⟨j, hj⟩
      rcases (hands c j).1 hj with ⟨-, handed⟩ | hj
      · exact .inl handed
      · exact .inr ⟨j, hj⟩
  · intro c present
    rw [nextConsumer]
    exact hw.consumers c ((hasConsumer_take ht).1 present)
  · intro c j hj
    rw [nextConsumer]
    rcases (hands c j).1 hj with ⟨-, handed⟩ | hj
    · exact hw.consumers c (free c handed).1
    · exact hw.holders c j hj
  · intro j h hj
    rw [next]
    rcases (open_take ht).1 hj with ⟨rfl, -⟩ | ⟨-, hj⟩
    · exact Nat.lt_succ_of_le (Nat.le_of_eq number)
    · exact Nat.lt_succ_of_lt (hw.deliveries j h hj)

end Take

/-! ## A delivery is closed -/

theorem Closes.inHandsOf (hc : b.Closes id b') : b'.InHandsOf c j ↔ j ≠ id ∧ b.InHandsOf c j := by
  constructor
  · rintro ⟨h, ho, handed⟩
    obtain ⟨other, ho⟩ := (hc.isOpen j h).1 ho
    exact ⟨other, h, ho, handed⟩
  · rintro ⟨other, h, ho, handed⟩
    exact ⟨h, (hc.isOpen j h).2 ⟨other, ho⟩, handed⟩

/-- Only the delivery that the window is set for clears it. -/
theorem Closes.inHandsOf_of_cleared (hc : b.Closes id b') (busy : b.isBusy c = true)
    (cleared : b'.isBusy c = false) : b.InHandsOf c id := by
  by_contra other
  have still := (hc.isBusy c).2 ⟨busy, other⟩
  rw [cleared] at still
  cases still

/-- A consumer whose delivery is closed has a free window and empty hands. -/
theorem Closes.hands_empty (hc : b.Closes id b') (held : b.InHandsOf c id) :
    b'.isBusy c = false ∧ ¬ b'.InHandsOf c id :=
  ⟨Bool.eq_false_iff.2 fun busy => ((hc.isBusy c).1 busy).2 held, fun h => (hc.inHandsOf.1 h).1 rfl⟩

theorem Windows.closes (hw : b.Windows) (hc : b.Closes id b') : b'.Windows := by
  constructor
  · intro c i j hi hj
    exact hw.one c i j (hc.inHandsOf.1 hi).2 (hc.inHandsOf.1 hj).2
  · intro c present
    rw [hc.isBusy, hw.busy c ((hc.hasConsumer c).1 present)]
    constructor
    · rintro ⟨⟨j, hj⟩, other⟩
      refine ⟨j, hc.inHandsOf.2 ⟨?_, hj⟩⟩
      rintro rfl
      exact other hj
    · rintro ⟨j, hj⟩
      obtain ⟨other, hj⟩ := hc.inHandsOf.1 hj
      exact ⟨⟨j, hj⟩, fun same => other (hw.one c j id hj same)⟩
  · intro c present
    rw [hc.nextConsumer]
    exact hw.consumers c ((hc.hasConsumer c).1 present)
  · intro c j hj
    rw [hc.nextConsumer]
    exact hw.holders c j (hc.inHandsOf.1 hj).2
  · intro j h hj
    rw [hc.nextDelivery]
    exact hw.deliveries j h ((hc.isOpen j h).1 hj).2

/-! ## Consumers come and go -/

theorem consume_lookup (b : Memory) (e : ConsumerId) :
    b.consume.2.consumers.lookup e =
      if e = b.nextConsumer then some false else b.consumers.lookup e := by
  unfold consume
  rw [List.lookup_cons]
  by_cases he : e = b.nextConsumer
  · simp [he]
  · rw [beq_false_of_ne he, if_neg he]

theorem leave_lookup (b : Memory) (c e : ConsumerId) :
    (b.leave c).consumers.lookup e = if e = c then none else b.consumers.lookup e := by
  have kept := lookup_keep b.consumers (· != c) e
  refine kept.trans ?_
  by_cases he : e = c <;> simp [he]

theorem isBusy_of_consume (busy : b.consume.2.isBusy e = true) :
    e ≠ b.nextConsumer ∧ b.isBusy e = true := by
  unfold isBusy at busy
  rw [consume_lookup] at busy
  split at busy
  · cases busy
  next old => exact ⟨old, busy⟩

theorem Windows.consume (hw : b.Windows) : b.consume.2.Windows where
  one := hw.one
  busy := by
    intro c present
    unfold HasConsumer at present
    rw [consume_lookup] at present
    by_cases new : c = b.nextConsumer
    · refine iff_of_false (fun busy => (isBusy_of_consume busy).1 new) ?_
      rintro ⟨j, hj⟩
      exact Nat.ne_of_lt (hw.holders c j hj) new
    · rw [if_neg new] at present
      unfold isBusy
      rw [consume_lookup, if_neg new]
      exact hw.busy c present
  consumers := by
    intro c present
    unfold HasConsumer at present
    rw [consume_lookup] at present
    by_cases new : c = b.nextConsumer
    · exact Nat.lt_succ_of_le (Nat.le_of_eq new)
    · rw [if_neg new] at present
      exact Nat.lt_succ_of_lt (hw.consumers c present)
  holders := fun c j hj => Nat.lt_succ_of_lt (hw.holders c j hj)
  deliveries := hw.deliveries

theorem hasConsumer_leave : (b.leave c).HasConsumer e ↔ e ≠ c ∧ b.HasConsumer e := by
  unfold HasConsumer
  rw [leave_lookup]
  by_cases he : e = c <;> simp [he]

theorem isBusy_leave (other : e ≠ c) : (b.leave c).isBusy e = b.isBusy e := by
  rw [isBusy, isBusy, leave_lookup, if_neg other]

theorem Windows.leave (hw : b.Windows) (c : ConsumerId) : (b.leave c).Windows where
  one := hw.one
  busy := by
    intro e present
    obtain ⟨other, present⟩ := hasConsumer_leave.1 present
    rw [isBusy_leave other]
    exact hw.busy e present
  consumers := fun e present => hw.consumers e (hasConsumer_leave.1 present).2
  holders := hw.holders
  deliveries := hw.deliveries

end Memory

namespace Usage

/-- The windows are right, the consumers whose calls wait are there, and the window is free of one
whose call waits for a message. -/
structure Minds (u : Usage) : Prop where
  windows : u.broker.Windows
  present : ∀ c w, u.calls c = some w → u.broker.HasConsumer c
  free : ∀ c, u.calls c = some .message → u.broker.isBusy c = false

variable {past : List Passage} {u u' : Usage} {p : Passage}

theorem Minds.of_call (hu : u.Minds) (c : ConsumerId) (w : Waiting)
    (present : u.broker.HasConsumer c) (free : w = .message → u.broker.isBusy c = false) :
    Minds { u with calls := Function.update u.calls c (some w) } where
  windows := hu.windows
  present := by
    intro e v waits
    by_cases he : e = c
    · exact he ▸ present
    · exact hu.present e v ((Function.update_of_ne he ..).symm.trans waits)
  free := by
    intro e waits
    by_cases he : e = c
    · subst he
      have same := (Function.update_self e (some w) u.calls).symm.trans waits
      exact free (Option.some.inj same)
    · exact hu.free e ((Function.update_of_ne he ..).symm.trans waits)

theorem Minds.hang_up (hu : u.Minds) (c : ConsumerId) :
    Minds { u with calls := Function.update u.calls c none } := by
  have others : ∀ e w, Function.update u.calls c none e = some w → u.calls e = some w := by
    intro e w waits
    by_cases he : e = c
    · subst he
      cases (Function.update_self ..).symm.trans waits
    · exact (Function.update_of_ne he ..).symm.trans waits
  exact ⟨hu.windows, fun e w waits => hu.present e w (others e w waits),
    fun e waits => hu.free e (others e _ waits)⟩

/-- The broker may change as long as no consumer whose call waits goes away or becomes busy. -/
theorem Minds.of_broker (hu : u.Minds) {b : Memory} (windows : b.Windows)
    (kept : ∀ c w, u.calls c = some w → (u.broker.HasConsumer c → b.HasConsumer c) ∧
      (b.isBusy c = true → u.broker.isBusy c = true)) :
    Minds { u with broker := b } where
  windows := windows
  present := fun c w waits => (kept c w waits).1 (hu.present c w waits)
  free := by
    intro c waits
    by_contra busy
    have before := (kept c _ waits).2 (eq_true_of_ne_false busy)
    rw [hu.free c waits] at before
    cases before

theorem Minds.closes (hu : u.Minds) {id : DeliveryId} {b : Memory} (hc : u.broker.Closes id b) :
    Minds { u with broker := b } :=
  hu.of_broker (hu.windows.closes hc) fun c _ _ =>
    ⟨(hc.hasConsumer c).2, fun busy => ((hc.isBusy c).1 busy).1⟩

theorem Minds.of_same (hu : u.Minds) {b : Memory} (held : b.held = u.broker.held)
    (consumers : b.consumers = u.broker.consumers)
    (nextConsumer : b.nextConsumer = u.broker.nextConsumer)
    (nextDelivery : b.nextDelivery = u.broker.nextDelivery) : Minds { u with broker := b } := by
  refine hu.of_broker (hu.windows.of_same held consumers nextConsumer nextDelivery) fun c _ _ => ?_
  rw [Memory.HasConsumer, Memory.HasConsumer, Memory.isBusy, Memory.isBusy, consumers]
  exact ⟨id, id⟩

theorem Minds.taken (hu : u.Minds) {d : Delivery} {b : Memory}
    (ht : u.broker.take none = some (d, b)) : Minds { u with broker := b } := by
  refine hu.of_broker (hu.windows.take ht nofun) fun c _ _ => ⟨(Memory.hasConsumer_take ht).2, ?_⟩
  intro busy
  exact ((Memory.isBusy_take ht nofun).1 busy).resolve_left nofun

theorem Minds.received (hu : u.Minds) {c : ConsumerId} {d : Delivery} {b : Memory}
    (waits : u.calls c = some .message) (ht : u.broker.take (some c) = some (d, b)) :
    Minds ⟨b, Function.update u.calls c none⟩ := by
  have ready : ∀ e, some c = some e → u.broker.HasConsumer e ∧ u.broker.isBusy e = false := by
    rintro _ ⟨⟩
    exact ⟨hu.present c _ waits, hu.free c waits⟩
  refine (hu.hang_up c).of_broker (hu.windows.take ht ready) fun e w waits =>
    ⟨(Memory.hasConsumer_take ht).2, fun busy => ?_⟩
  -- The consumer that becomes busy has no call any more.
  rcases (Memory.isBusy_take ht fun e same => (ready e same).1).1 busy with same | busy
  · cases same
    cases (Function.update_self ..).symm.trans waits
  · exact busy

theorem Minds.consumed (hu : u.Minds) : Minds { u with broker := u.broker.consume.2 } := by
  refine hu.of_broker hu.windows.consume fun c _ _ => ⟨fun present => ?_, fun busy => ?_⟩
  · unfold Memory.HasConsumer
    rw [Memory.consume_lookup]
    split
    · rfl
    · exact present
  · exact (Memory.isBusy_of_consume busy).2

theorem Minds.left (hu : u.Minds) {c : ConsumerId} (silent : u.calls c = none) :
    Minds { u with broker := u.broker.leave c } := by
  refine hu.of_broker (hu.windows.leave c) fun e w waits => ?_
  have other : e ≠ c := by
    rintro rfl
    cases silent.symm.trans waits
  exact ⟨fun present => Memory.hasConsumer_leave.2 ⟨other, present⟩,
    fun busy => (Memory.isBusy_leave other).symm.trans busy⟩

theorem Step.minds (h : u.Step p u') (hu : u.Minds) : u'.Minds := by
  cases h with
  | published e => exact hu.of_same rfl rfl rfl rfl
  | enqueued body correlationId => exact hu.of_same rfl rfl rfl rfl
  | idle => exact hu
  | taken ht => exact hu.taken ht
  | called present _ => exact hu.of_call _ _ present nofun
  | @foundFree c waits free => exact hu.of_call _ _ (hu.present c _ waits) fun _ => free
  | received waits ht => exact hu.received waits ht
  | ended _ _ _ => exact hu.hang_up _
  | cancelled c => exact hu.hang_up c
  | settled id how => exact hu.closes (u.broker.closes_settle id how)
  | @returned id _ _ => exact hu.closes (u.broker.closes_drop id)
  | @forgotten id _ => exact hu.closes (u.broker.closes_drop id)
  | consumed => exact hu.consumed
  | left silent => exact hu.left silent
  | closed => exact hu.of_same rfl rfl rfl rfl
  | declared => exact hu.of_same rfl rfl rfl rfl

theorem Run.minds (run : Run past u) : u.Minds := by
  induction run with
  | start => exact ⟨.fresh, nofun, nofun⟩
  | step _ h ih => exact h.minds ih

/-- A call that found the window free need not look at it again: what it gets is what one that has
just been made would get. -/
theorem Run.next_of_waiting (run : Run past u) {c : ConsumerId}
    (waits : u.calls c = some .message) :
    u.broker.next c =
      match u.broker.take (some c) with
      | some (d, b) => .delivery d b
      | none => if u.broker.closed then .ended else .nothingYet := by
  rw [Memory.next, run.minds.free c waits]
  rfl

/-- However a broker is used: no consumer has two open deliveries; its window is set if it has one
and only then; and where settling a delivery, for the first time or again, or letting go of it
clears a window, the consumer had that very delivery in its hands. A consumer that has a delivery in
its hands can settle it or let go of it, and then its hands are empty and its window is clear. -/
theorem Run.one_open_delivery (run : Run past u) :
    (∀ c i j, u.broker.InHandsOf c i → u.broker.InHandsOf c j → i = j) ∧
    (∀ c, u.broker.HasConsumer c →
      (u.broker.isBusy c = true ↔ ∃ id, u.broker.InHandsOf c id)) ∧
    (∀ c id how, u.broker.isBusy c = true → (u.broker.settle id how).2.isBusy c = false →
      u.broker.InHandsOf c id) ∧
    (∀ c id, u.broker.isBusy c = true → (u.broker.drop id).isBusy c = false →
      u.broker.InHandsOf c id) ∧
    ∀ c id, u.broker.InHandsOf c id →
      (∀ how, (u.broker.settle id how).1 = .ok () ∧
        (u.broker.settle id how).2.isBusy c = false ∧
          ¬ (u.broker.settle id how).2.InHandsOf c id) ∧
      (u.broker.drop id).isBusy c = false ∧ ¬ (u.broker.drop id).InHandsOf c id := by
  have windows := run.minds.windows
  refine ⟨windows.one, windows.busy, ?_, ?_, ?_⟩
  · intro c id how busy cleared
    exact (u.broker.closes_settle id how).inHandsOf_of_cleared busy cleared
  · intro c id busy cleared
    exact (u.broker.closes_drop id).inHandsOf_of_cleared busy cleared
  · intro c id held
    refine ⟨fun how => ⟨?_, (u.broker.closes_settle id how).hands_empty held⟩,
      (u.broker.closes_drop id).hands_empty held⟩
    obtain ⟨h, ho, -⟩ := held
    exact (Memory.settle_of_open how ho.1 ho.2).1

/-- A consumer settles a delivery, is handed another, settles the first again and only then lets go
of it. -/
theorem Run.one_open_delivery_of_late_drop :
    ∃ past u, Run past u ∧ u.broker.isBusy 0 = true ∧ u.broker.InHandsOf 0 1 ∧
      (∀ j, u.broker.InHandsOf 0 j → j = 1) ∧
      (∀ id how, (u.broker.settle id how).2.isBusy 0 = false → id = 1) ∧
      ∀ how, (u.broker.settle 1 how).2.isBusy 0 = false ∧
        ¬ (u.broker.settle 1 how).2.InHandsOf 0 1 := by
  have run : Run _ _ :=
    Run.start.step (.enqueued _ [1] none)
      |>.step (.enqueued _ [2] none)
      |>.step (.consumed _)
      |>.step (@Step.called _ 0 rfl rfl)
      |>.step (@Step.foundFree _ 0 rfl rfl)
      |>.step (@Step.received _ 0 _ _ rfl rfl)
      |>.step (.settled _ 0 .ack)
      |>.step (@Step.called _ 0 rfl rfl)
      |>.step (@Step.foundFree _ 0 rfl rfl)
      |>.step (@Step.received _ 0 _ _ rfl rfl)
      |>.step (.settled _ 0 .reject)
      |>.step (@Step.forgotten _ 0 fun h ho => by cases ho.1; cases ho.2)
  obtain ⟨one, -, settled, -, closed⟩ := run.one_open_delivery
  have held := settled 0 1 .ack rfl rfl
  refine ⟨_, _, run, rfl, held, fun j hj => one 0 j 1 hj held, fun id how cleared => ?_,
    fun how => ((closed 0 1 held).1 how).2⟩
  exact one 0 id 1 (settled 0 id how rfl cleared) held

end Usage
end ReplyPipeline.Broker
