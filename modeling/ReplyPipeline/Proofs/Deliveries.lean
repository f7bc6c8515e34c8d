import ReplyPipeline.Broker.Memory
import ReplyPipeline.Proofs.Places

/-!
# Deliveries of the broker in memory

What taking, settling and dropping do to the two queues and to the record of who holds what, then
the whole broker after each of them, and the number of deliveries in flight.
-/
namespace ReplyPipeline.Broker

theorem lookup_map_key {β : Type} (l : List (Nat × β)) (id k : Nat) (f : β → β) :
    (l.map fun p => if p.1 = id then (p.1, f p.2) else p).lookup k =
      if k = id then (l.lookup k).map f else l.lookup k := by
  induction l with
  | nil => simp
  | cons p l ih =>
    obtain ⟨j, x⟩ := p
    by_cases hj : k = j
    · subst hj
      by_cases hk : k = id <;> simp [hk]
    · have hne : (k == j) = false := by simpa using hj
      by_cases hi : j = id
      · subst hi
        simpa [List.lookup_cons, hne, hj] using ih
      · simpa [List.lookup_cons, hne, hi] using ih

namespace Memory

variable {b b' : Memory} {id j : DeliveryId} {h : Held}

@[simp] theorem freeWindow_held (b : Memory) (h : Held) : (b.freeWindow h).held = b.held := by
  unfold freeWindow
  split <;> rfl

@[simp] theorem freeWindow_ready (b : Memory) (h : Held) : (b.freeWindow h).ready = b.ready := by
  unfold freeWindow
  split <;> rfl

@[simp] theorem freeWindow_deadLetters (b : Memory) (h : Held) :
    (b.freeWindow h).deadLetters = b.deadLetters := by
  unfold freeWindow
  split <;> rfl

@[simp] theorem freeWindow_nextDelivery (b : Memory) (h : Held) :
    (b.freeWindow h).nextDelivery = b.nextDelivery := by
  unfold freeWindow
  split <;> rfl

theorem take_eq_some {consumer : Option ConsumerId} {d : Delivery}
    (ht : b.take consumer = some (d, b')) :
    ∃ rest, b.ready = d.message :: rest ∧ b'.ready = rest ∧ d.id = b.nextDelivery ∧
      b'.nextDelivery = b.nextDelivery + 1 ∧ b'.deadLetters = b.deadLetters ∧
      b'.held = (d.id, ⟨d.message, consumer, false⟩) :: b.held := by
  unfold take at ht
  split at ht
  · cases ht
  next m rest hr =>
    refine ⟨rest, ?_⟩
    cases consumer with
    | none => cases ht; exact ⟨hr, rfl, rfl, rfl, rfl, rfl⟩
    | some c => cases ht; exact ⟨hr, rfl, rfl, rfl, rfl, rfl⟩

/-- Settling what is not held any more, or has been settled, changes nothing. -/
theorem settle_of_not_open (how : Settlement) (hl : (b.held.lookup id).all (·.settled)) :
    b.settle id how = (.error (.settle "delivery already settled"), b) := by
  unfold settle
  split
  · rfl
  next hh => rw [hh] at hl; rw [if_pos (by simpa using hl)]

/-- What settling a delivery that has not been settled does. -/
structure Settles (b : Memory) (id : DeliveryId) (h : Held) (how : Settlement) (b' : Memory) :
    Prop where
  ready : b'.ready = b.ready
  dead : b'.deadLetters = b.deadLetters ++ if how = .reject then [h.message] else []
  next : b'.nextDelivery = b.nextDelivery
  held : ∀ j, b'.held.lookup j = if j = id then some { h with settled := true } else b.held.lookup j

theorem settle_of_open (how : Settlement) (hl : b.held.lookup id = some h)
    (hs : h.settled = false) :
    (b.settle id how).1 = .ok () ∧ b.Settles id h how (b.settle id how).2 := by
  have marked : ∀ j, (b.markSettled id).held.lookup j =
      if j = id then some { h with settled := true } else b.held.lookup j := by
    intro j
    refine (lookup_map_key b.held id j fun h => { h with settled := true }).trans ?_
    by_cases hj : j = id
    · subst hj; simp [hl]
    · simp [hj]
  unfold settle
  rw [hl]
  simp only [hs, Bool.false_eq_true, if_false]
  cases how with
  | ack =>
    refine ⟨trivial, ⟨?_, ?_, ?_, fun j => ?_⟩⟩
    · simp [markSettled]
    · simp [markSettled]
    · simp [markSettled]
    · simpa using marked j
  | reject =>
    refine ⟨trivial, ⟨?_, ?_, ?_, fun j => ?_⟩⟩
    · simp [markSettled]
    · simp [markSettled]
    · simp [markSettled]
    · simpa using marked j

theorem drop_ready (b : Memory) (id : DeliveryId) :
    (b.drop id).ready =
      ((b.held.lookup id).filter (!·.settled)).toList.map
        (fun h => { h.message with redelivered := true }) ++ b.ready := by
  unfold drop
  split
  next hl => simp [hl]
  next h hl =>
    rw [hl]
    by_cases hs : h.settled <;> simp [hs, Option.filter]

@[simp] theorem drop_deadLetters (b : Memory) (id : DeliveryId) :
    (b.drop id).deadLetters = b.deadLetters := by
  unfold drop
  split
  · rfl
  · split <;> simp

@[simp] theorem drop_nextDelivery (b : Memory) (id : DeliveryId) :
    (b.drop id).nextDelivery = b.nextDelivery := by
  unfold drop
  split
  · rfl
  · split <;> simp

theorem drop_held (b : Memory) (id j : DeliveryId) :
    (b.drop id).held.lookup j = if j = id then none else b.held.lookup j := by
  unfold drop
  split
  next hl =>
    by_cases hj : j = id
    · rw [hj, hl, if_pos rfl]
    · rw [if_neg hj]
  next h hl =>
    have erased := lookup_keep b.held (· != id) j
    rw [apply_ite held]
    simp only [freeWindow_held, ite_self]
    rw [erased]
    by_cases hj : j = id <;> simp [hj]

/-! ## The whole broker -/

theorem take_of_next {c : ConsumerId} {d : Delivery} (h : b.next c = .delivery d b') :
    b.take (some c) = some (d, b') := by
  unfold next at h
  split at h
  · cases h
  · split at h
    next ht =>
      cases h
      exact ht
    next => split at h <;> cases h

theorem settle_eq (how : Settlement) (hl : b.held.lookup id = some h) (hs : h.settled = false) :
    b.settle id how = (.ok (),
      { b.markSettled id with
        inFlight := b.inFlight - 1
        acked := match how with | .ack => b.acked + 1 | .reject => b.acked
        deadLetters := match how with
          | .ack => b.deadLetters
          | .reject => b.deadLetters ++ [h.message] }.freeWindow h) := by
  unfold settle
  rw [hl]
  cases how <;> simp [hs, markSettled]

theorem drop_of_none (hl : b.held.lookup id = none) : b.drop id = b := by
  unfold drop
  rw [hl]

theorem drop_of_settled (hl : b.held.lookup id = some h) (hs : h.settled = true) :
    b.drop id = { b with held := b.held.filter fun p => p.1 != id } := by
  unfold drop
  rw [hl]
  exact if_pos hs

/-- An open delivery that goes away puts its message in front of the queue. -/
theorem drop_of_open (hl : b.held.lookup id = some h) (hs : h.settled = false) :
    b.drop id =
      { b with
        held := b.held.filter fun p => p.1 != id
        inFlight := b.inFlight - 1
        ready := { h.message with redelivered := true } :: b.ready }.freeWindow h := by
  unfold drop
  rw [hl]
  exact if_neg (by simp [hs])

theorem drop_ready_of_settled (hl : b.held.lookup id = some h) (hs : h.settled = true) :
    (b.drop id).ready = b.ready := by
  rw [drop_of_settled hl hs]

theorem drop_ready_of_open (hl : b.held.lookup id = some h) (hs : h.settled = false) :
    (b.drop id).ready = { h.message with redelivered := true } :: b.ready := by
  rw [drop_of_open hl hs, freeWindow_ready]

/-! ## What is in flight -/

@[simp] theorem freeWindow_inFlight (b : Memory) (h : Held) :
    (b.freeWindow h).inFlight = b.inFlight := by
  unfold freeWindow
  split <;> rfl

theorem take_inFlight {consumer : Option ConsumerId} {d : Delivery}
    (ht : b.take consumer = some (d, b')) : b'.inFlight = b.inFlight + 1 := by
  unfold take at ht
  split at ht
  · cases ht
  · cases consumer <;> cases ht <;> rfl

theorem exists_take (consumer : Option ConsumerId) (some_ : b.ready ≠ []) :
    ∃ d b', b.take consumer = some (d, b') := by
  unfold take
  split
  next none => exact absurd none some_
  next => cases consumer <;> exact ⟨_, _, rfl⟩

theorem settle_inFlight (how : Settlement) (hl : b.held.lookup id = some h)
    (hs : h.settled = false) : (b.settle id how).2.inFlight = b.inFlight - 1 := by
  rw [settle_eq how hl hs, freeWindow_inFlight]

theorem drop_inFlight (hl : b.held.lookup id = some h) (hs : h.settled = true) :
    (b.drop id).inFlight = b.inFlight := by
  rw [drop_of_settled hl hs]

end Memory
end ReplyPipeline.Broker
