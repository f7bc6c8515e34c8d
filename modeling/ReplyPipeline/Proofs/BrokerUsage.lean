import ReplyPipeline.Proofs.Deliveries

/-!
# Uses of the broker in memory

Any number of publishers and consumers use a broker at once. A consumer's call for the next message
stops twice: until the consumer's window is free, and then, without looking at the window again,
until there is a message. Whoever waits may look at any time, woken or not, and may give up. What a
step does to the queue and to the open deliveries is one of four things (`Shifts`); settling a
delivery and letting go of it do the same to the open deliveries and the windows (`Closes`).
-/
namespace ReplyPipeline.Broker

namespace Memory

/-- A delivery that has neither been settled nor gone away. -/
def Open (b : Memory) (id : DeliveryId) (h : Held) : Prop :=
  b.held.lookup id = some h ∧ h.settled = false

/-- An open delivery that was handed to the consumer. -/
def InHandsOf (b : Memory) (c : ConsumerId) (id : DeliveryId) : Prop :=
  ∃ h, b.Open id h ∧ h.consumer = some c

def HasConsumer (b : Memory) (c : ConsumerId) : Prop := (b.consumers.lookup c).isSome

variable {b b' : Memory} {id j : DeliveryId} {h k : Held} {c d : ConsumerId}

theorem Open.unique (ho : b.Open id h) (hk : b.Open id k) : h = k :=
  Option.some.inj (ho.1.symm.trans hk.1)

theorem inHandsOf_iff (ho : b.Open id h) : b.InHandsOf c id ↔ h.consumer = some c := by
  constructor
  · rintro ⟨k, hk, handed⟩
    rwa [ho.unique hk]
  · exact fun handed => ⟨h, ho, handed⟩

theorem exists_open_or (b : Memory) (id : DeliveryId) :
    (∃ h, b.Open id h) ∨ (b.held.lookup id).all (·.settled) := by
  cases hl : b.held.lookup id with
  | none => exact .inr rfl
  | some h =>
    cases hs : h.settled with
    | false => exact .inl ⟨h, hl, hs⟩
    | true => exact .inr (by simpa using hs)

/-! ## Windows -/

theorem setBusy_lookup (b : Memory) (c d : ConsumerId) (busy : Bool) :
    (b.setBusy c busy).consumers.lookup d =
      if d = c then (b.consumers.lookup d).map fun _ => busy else b.consumers.lookup d :=
  lookup_map_key b.consumers c d fun _ => busy

theorem hasConsumer_setBusy {busy : Bool} : (b.setBusy c busy).HasConsumer d ↔ b.HasConsumer d := by
  unfold HasConsumer
  rw [setBusy_lookup]
  split <;> simp

theorem isBusy_setBusy_true (present : b.HasConsumer c) :
    (b.setBusy c true).isBusy d = true ↔ d = c ∨ b.isBusy d = true := by
  obtain ⟨busy, found⟩ := Option.isSome_iff_exists.1 present
  unfold isBusy
  rw [setBusy_lookup]
  by_cases hd : d = c
  · subst hd
    simp [found]
  · simp [hd]

theorem isBusy_setBusy_false :
    (b.setBusy c false).isBusy d = true ↔ d ≠ c ∧ b.isBusy d = true := by
  unfold isBusy
  rw [setBusy_lookup]
  by_cases hd : d = c
  · cases b.consumers.lookup d <;> simp [hd]
  · simp [hd]

theorem hasConsumer_freeWindow : (b.freeWindow h).HasConsumer c ↔ b.HasConsumer c := by
  unfold freeWindow
  split
  · exact hasConsumer_setBusy
  · exact Iff.rfl

theorem isBusy_freeWindow :
    (b.freeWindow h).isBusy c = true ↔ b.isBusy c = true ∧ h.consumer ≠ some c := by
  unfold freeWindow
  split
  next d handed =>
    rw [isBusy_setBusy_false, handed, and_comm, ne_comm, ne_eq, ne_eq, Option.some_inj]
  next nobody => simp [nobody]

@[simp] theorem freeWindow_nextConsumer (b : Memory) (h : Held) :
    (b.freeWindow h).nextConsumer = b.nextConsumer := by
  unfold freeWindow
  split <;> rfl

/-! ## Taking and closing -/

theorem open_take {consumer : Option ConsumerId} {d : Delivery}
    (ht : b.take consumer = some (d, b')) :
    b'.Open j h ↔ j = d.id ∧ h = ⟨d.message, consumer, false⟩ ∨ j ≠ d.id ∧ b.Open j h := by
  obtain ⟨-, -, -, -, -, -, held⟩ := take_eq_some ht
  unfold Open
  rw [held]
  by_cases hj : j = d.id
  · subst hj
    rw [List.lookup_cons_self]
    constructor
    · rintro ⟨same, -⟩
      exact .inl ⟨rfl, (Option.some.inj same).symm⟩
    · rintro (⟨-, rfl⟩ | ⟨other, -⟩)
      · exact ⟨rfl, rfl⟩
      · exact absurd rfl other
  · rw [List.lookup_cons, beq_false_of_ne hj]
    simp [hj]

theorem take_windows {consumer : Option ConsumerId} {d : Delivery}
    (ht : b.take consumer = some (d, b')) :
    b'.consumers = (match consumer with
      | some c => (b.setBusy c true).consumers
      | none => b.consumers) ∧ b'.nextConsumer = b.nextConsumer := by
  unfold take at ht
  split at ht
  · cases ht
  · cases consumer <;> cases ht <;> exact ⟨rfl, rfl⟩

/-- The broker after a delivery was closed: it is not open any more, and if a consumer had it in
its hands, the window of that consumer is clear. -/
structure Closes (b : Memory) (id : DeliveryId) (b' : Memory) : Prop where
  isOpen : ∀ j h, b'.Open j h ↔ j ≠ id ∧ b.Open j h
  isBusy : ∀ c, b'.isBusy c = true ↔ b.isBusy c = true ∧ ¬ b.InHandsOf c id
  hasConsumer : ∀ c, b'.HasConsumer c ↔ b.HasConsumer c
  nextConsumer : b'.nextConsumer = b.nextConsumer
  nextDelivery : b'.nextDelivery = b.nextDelivery

theorem Closes.of_freeWindow {b₀ : Memory} (ho : b.Open id h)
    (opened : ∀ j h, b₀.Open j h ↔ j ≠ id ∧ b.Open j h) (windows : b₀.consumers = b.consumers)
    (nextConsumer : b₀.nextConsumer = b.nextConsumer)
    (nextDelivery : b₀.nextDelivery = b.nextDelivery) : b.Closes id (b₀.freeWindow h) where
  isOpen := by
    intro j k
    rw [← opened, Open, Open, freeWindow_held]
  isBusy := by
    intro c
    rw [isBusy_freeWindow, inHandsOf_iff ho, Memory.isBusy, Memory.isBusy, windows]
  hasConsumer := by
    intro c
    rw [hasConsumer_freeWindow, HasConsumer, HasConsumer, windows]
  nextConsumer := by rw [freeWindow_nextConsumer, nextConsumer]
  nextDelivery := by rw [freeWindow_nextDelivery, nextDelivery]

theorem Closes.of_not_open (hn : ∀ h, ¬ b.Open id h)
    (opened : ∀ j h, b'.Open j h ↔ j ≠ id ∧ b.Open j h) (windows : b'.consumers = b.consumers)
    (nextConsumer : b'.nextConsumer = b.nextConsumer)
    (nextDelivery : b'.nextDelivery = b.nextDelivery) : b.Closes id b' where
  isOpen := opened
  isBusy := by
    intro c
    rw [Memory.isBusy, Memory.isBusy, windows, iff_self_and]
    rintro - ⟨h, ho, -⟩
    exact hn h ho
  hasConsumer := by
    intro c
    rw [HasConsumer, HasConsumer, windows]
  nextConsumer := nextConsumer
  nextDelivery := nextDelivery

theorem open_of_settles {how : Settlement} (hs : b.Settles id h how b') :
    b'.Open j k ↔ j ≠ id ∧ b.Open j k := by
  unfold Open
  rw [hs.held j]
  by_cases hj : j = id
  · rw [if_pos hj]
    constructor
    · rintro ⟨found, unsettled⟩
      cases found
      cases unsettled
    · rintro ⟨other, -⟩
      exact absurd hj other
  · rw [if_neg hj, and_iff_right hj]

theorem not_open_of_all (hl : (b.held.lookup id).all (·.settled)) (h : Held) : ¬ b.Open id h := by
  rintro ⟨found, unsettled⟩
  simp [found, unsettled] at hl

theorem closes_settle (b : Memory) (id : DeliveryId) (how : Settlement) :
    b.Closes id (b.settle id how).2 := by
  rcases b.exists_open_or id with ⟨h, ho⟩ | hl
  · have opened : ∀ j k, (b.settle id how).2.Open j k ↔ j ≠ id ∧ b.Open j k :=
      fun _ _ => open_of_settles (settle_of_open how ho.1 ho.2).2
    rw [settle_eq how ho.1 ho.2] at opened ⊢
    refine .of_freeWindow ho ?_ rfl rfl rfl
    intro j k
    rw [← opened, Open, Open, freeWindow_held]
  · have hn := not_open_of_all hl
    rw [settle_of_not_open how hl]
    refine .of_not_open hn ?_ rfl rfl rfl
    intro j k
    refine ⟨fun hk => ⟨?_, hk⟩, And.right⟩
    rintro rfl
    exact hn k hk

theorem open_drop : (b.drop id).Open j k ↔ j ≠ id ∧ b.Open j k := by
  unfold Open
  rw [drop_held]
  by_cases hj : j = id <;> simp [hj]

theorem closes_drop (b : Memory) (id : DeliveryId) : b.Closes id (b.drop id) := by
  have opened : ∀ j k, (b.drop id).Open j k ↔ j ≠ id ∧ b.Open j k := fun _ _ => open_drop
  rcases b.exists_open_or id with ⟨h, ho⟩ | hl
  · rw [drop_of_open ho.1 ho.2] at opened ⊢
    refine .of_freeWindow ho ?_ rfl rfl rfl
    intro j k
    rw [← opened, Open, Open, freeWindow_held]
  · refine .of_not_open (not_open_of_all hl) opened ?_ ?_ (drop_nextDelivery b id)
    all_goals
      cases found : b.held.lookup id with
      | none => rw [drop_of_none found]
      | some h => rw [drop_of_settled found (by simpa [found] using hl)]

end Memory

/-- What a step does to the queue. -/
inductive Passage where
  | enqueued (m : Message)
  | handedOut (d : Delivery)
  /-- The message of an open delivery came back. -/
  | returned (id : DeliveryId)
  /-- Nothing moves. -/
  | nothing

/-- What a call for the next message waits for. -/
inductive Waiting where
  /-- Until the consumer's window is free. -/
  | window
  /-- Until there is a message. -/
  | message

/-- A broker, and the calls that wait: a consumer has one at most. -/
structure Usage where
  broker : Memory := {}
  calls : ConsumerId → Option Waiting := fun _ => none

namespace Usage

/-- Somebody uses the broker. -/
inductive Step : Usage → Passage → Usage → Prop
  | published (u : Usage) (e : Envelope) :
      Step u (.enqueued (.ofEnvelope e)) { u with broker := u.broker.push (.ofEnvelope e) }
  /-- Octets are put into the queue as they are. -/
  | enqueued (u : Usage) (body : Bytes) (correlationId : Option String) :
      Step u (.enqueued ⟨body, correlationId, false⟩)
        { u with broker := u.broker.push ⟨body, correlationId, false⟩ }
  /-- A publication fails, or one who waits is woken in vain. -/
  | idle (u : Usage) : Step u .nothing u
  /-- The first message is taken without waiting. -/
  | taken {u : Usage} {d : Delivery} {b : Memory} :
      u.broker.take none = some (d, b) → Step u (.handedOut d) { u with broker := b }
  | called {u : Usage} {c : ConsumerId} : u.broker.HasConsumer c → u.calls c = none →
      Step u .nothing { u with calls := Function.update u.calls c (some .window) }
  | foundFree {u : Usage} {c : ConsumerId} :
      u.calls c = some .window → u.broker.isBusy c = false →
      Step u .nothing { u with calls := Function.update u.calls c (some .message) }
  | received {u : Usage} {c : ConsumerId} {d : Delivery} {b : Memory} :
      u.calls c = some .message → u.broker.take (some c) = some (d, b) →
      Step u (.handedOut d) ⟨b, Function.update u.calls c none⟩
  | ended {u : Usage} {c : ConsumerId} :
      u.calls c = some .message → u.broker.ready = [] → u.broker.closed = true →
      Step u .nothing { u with calls := Function.update u.calls c none }
  | cancelled (u : Usage) (c : ConsumerId) :
      Step u .nothing { u with calls := Function.update u.calls c none }
  | settled (u : Usage) (id : DeliveryId) (how : Settlement) :
      Step u .nothing { u with broker := (u.broker.settle id how).2 }
  /-- An open delivery goes away. -/
  | returned {u : Usage} {id : DeliveryId} {h : Held} :
      u.broker.Open id h → Step u (.returned id) { u with broker := u.broker.drop id }
  /-- A delivery that was settled goes away. -/
  | forgotten {u : Usage} {id : DeliveryId} :
      (∀ h, ¬ u.broker.Open id h) → Step u .nothing { u with broker := u.broker.drop id }
  | consumed (u : Usage) : Step u .nothing { u with broker := u.broker.consume.2 }
  | left {u : Usage} {c : ConsumerId} :
      u.calls c = none → Step u .nothing { u with broker := u.broker.leave c }
  | closed (u : Usage) : Step u .nothing { u with broker := u.broker.close }
  | declared (u : Usage) : Step u .nothing { u with broker := u.broker.declare }

/-- What a new broker has been used for, the latest first, and what came of it. -/
inductive Run : List Passage → Usage → Prop
  | start : Run [] {}
  | step {past : List Passage} {u u' : Usage} {p : Passage} :
      Run past u → Step u p u' → Run (p :: past) u'

end Usage

namespace Memory

/-- What can become of the queue and the open deliveries. -/
inductive Shifts (b : Memory) : Passage → Memory → Prop
  | enqueued {b' : Memory} {m : Message} : m.redelivered = false → b'.ready = b.ready ++ [m] →
      (∀ j h, b'.Open j h ↔ b.Open j h) → b'.nextDelivery = b.nextDelivery →
      Shifts b (.enqueued m) b'
  | handedOut {b' : Memory} {d : Delivery} {consumer : Option ConsumerId} :
      b.ready = d.message :: b'.ready → d.id = b.nextDelivery →
      (∀ j h, b'.Open j h ↔
        j = d.id ∧ h = ⟨d.message, consumer, false⟩ ∨ j ≠ d.id ∧ b.Open j h) →
      b'.nextDelivery = b.nextDelivery + 1 → Shifts b (.handedOut d) b'
  | returned {b' : Memory} {id : DeliveryId} {h : Held} : b.Open id h →
      b'.ready = { h.message with redelivered := true } :: b.ready →
      (∀ j h, b'.Open j h ↔ j ≠ id ∧ b.Open j h) → b'.nextDelivery = b.nextDelivery →
      Shifts b (.returned id) b'
  | nothing {b' : Memory} : b'.ready = b.ready → (∀ j h, b'.Open j h → b.Open j h) →
      b'.nextDelivery = b.nextDelivery → Shifts b .nothing b'

variable {b b' : Memory}

theorem shifts_take {consumer : Option ConsumerId} {d : Delivery}
    (ht : b.take consumer = some (d, b')) : b.Shifts (.handedOut d) b' := by
  obtain ⟨rest, ready, ready', number, next, -, -⟩ := take_eq_some ht
  exact .handedOut (ready.trans (by rw [ready'])) number (fun _ _ => open_take ht) next

theorem shifts_push (m : Message) (fresh : m.redelivered = false) :
    b.Shifts (.enqueued m) (b.push m) :=
  .enqueued fresh rfl (fun _ _ => Iff.rfl) rfl

theorem settle_ready (b : Memory) (id : DeliveryId) (how : Settlement) :
    (b.settle id how).2.ready = b.ready := by
  rcases b.exists_open_or id with ⟨h, ho⟩ | hl
  · exact (settle_of_open how ho.1 ho.2).2.ready
  · rw [settle_of_not_open how hl]

theorem shifts_settle (b : Memory) (id : DeliveryId) (how : Settlement) :
    b.Shifts .nothing (b.settle id how).2 := by
  have closed := b.closes_settle id how
  exact .nothing (b.settle_ready id how) (fun j h hj => ((closed.isOpen j h).1 hj).2)
    closed.nextDelivery

theorem shifts_drop_of_open {id : DeliveryId} {h : Held} (ho : b.Open id h) :
    b.Shifts (.returned id) (b.drop id) := by
  refine .returned ho ?_ (fun _ _ => open_drop) (drop_nextDelivery b id)
  rw [drop_of_open ho.1 ho.2, freeWindow_ready]

theorem shifts_drop_of_not_open {id : DeliveryId} (hn : ∀ h, ¬ b.Open id h) :
    b.Shifts .nothing (b.drop id) := by
  refine .nothing ?_ (fun _ _ hj => (open_drop.1 hj).2) (drop_nextDelivery b id)
  cases found : b.held.lookup id with
  | none => rw [drop_of_none found]
  | some h =>
    cases hs : h.settled with
    | true => rw [drop_of_settled found hs]
    | false => exact absurd ⟨found, hs⟩ (hn h)

end Memory

/-- Whatever step is taken, the queue and the open deliveries shift as it says. -/
theorem Usage.Step.shifts {u u' : Usage} {p : Passage} (h : u.Step p u') :
    u.broker.Shifts p u'.broker := by
  cases h with
  | published e => exact Memory.shifts_push _ rfl
  | enqueued body correlationId => exact Memory.shifts_push _ rfl
  | taken ht => exact Memory.shifts_take ht
  | received waits ht => exact Memory.shifts_take ht
  | settled id how => exact u.broker.shifts_settle id how
  | returned ho => exact Memory.shifts_drop_of_open ho
  | forgotten hn => exact Memory.shifts_drop_of_not_open hn
  | _ => exact .nothing rfl (fun _ _ ho => ho) rfl

end ReplyPipeline.Broker
