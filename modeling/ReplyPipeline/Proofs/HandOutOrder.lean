import ReplyPipeline.Proofs.BrokerUsage
import ReplyPipeline.Proofs.MessageBooks

/-!
# The order of handing out

The messages that are put into the queue of the broker in memory are numbered in the order in which
they come. A register beside the broker keeps the numbers: those of the messages that wait, the one
that each delivery is of, and which were handed out and came back. It is written along by what
happens and read by nobody. It shows that the queue has two parts: messages that came back, marked
and with the latest in front, and behind them those that have never been handed out, unmarked and in
order (`Usage.Run.hand_out_order`).
-/
namespace ReplyPipeline.Broker

/-- What has become of the messages, by their numbers. -/
structure Register where
  /-- What was put into the queue; the number of a message is its place here. -/
  enqueued : List Message := []
  /-- The messages that wait, in the order of the queue. -/
  waiting : List Nat := []
  /-- The message that a delivery is of. -/
  number : DeliveryId → Nat := fun _ => 0
  /-- What was handed out, the latest first. -/
  handed : List Nat := []
  /-- What came back, the latest first. -/
  returned : List Nat := []

namespace Register

/-- The first of the messages that wait is handed out as a delivery. -/
def handOut (r : Register) (id : DeliveryId) (k : Nat) (rest : List Nat) : Register :=
  { r with
    waiting := rest
    number := Function.update r.number id k
    handed := k :: r.handed }

def after (r : Register) : Passage → Register
  | .enqueued m =>
    { r with enqueued := r.enqueued ++ [m], waiting := r.waiting ++ [r.enqueued.length] }
  | .handedOut d =>
    match r.waiting with
    | [] => r
    | k :: rest => r.handOut d.id k rest
  | .returned id =>
    { r with waiting := r.number id :: r.waiting, returned := r.number id :: r.returned }
  | .nothing => r

/-- The register of what happened, the latest first. -/
def of (past : List Passage) : Register := past.foldr (fun p r => r.after p) {}

theorem after_handedOut {r : Register} {k : Nat} {rest : List Nat} (hw : r.waiting = k :: rest)
    (d : Delivery) : r.after (.handedOut d) = r.handOut d.id k rest := by
  unfold after
  rw [hw]

/-- The message of a number, handed out before. -/
def Again (r : Register) (k : Nat) (m : Message) : Prop :=
  r.enqueued[k]? = some m.unmarked ∧ m.redelivered = true

/-- A queue has two parts: the messages `back`, whose numbers are `block`, and those from the number
`first` on. -/
structure Parts (r : Register) (ready : List Message) (block : List Nat) (back : List Message)
    (first : Nat) : Prop where
  queue : ready = back ++ r.enqueued.drop first
  waiting : r.waiting = block ++ List.range' first (r.enqueued.length - first)
  /-- The messages in front are marked. -/
  again : List.Forall₂ r.Again block back
  /-- They were handed out and came back. -/
  returned : ∀ k ∈ block, k ∈ r.handed ∧ k ∈ r.returned
  /-- Of two of them, the one in front came back later. -/
  latest : block.Pairwise fun j k => r.returned.idxOf j < r.returned.idxOf k
  /-- The messages behind are not marked. -/
  fresh : ∀ m ∈ r.enqueued, m.redelivered = false
  /-- What was handed out was handed out for the first time in the order of the numbers, and these
  are all that are smaller than `first`. -/
  firsts : r.handed.dedup.reverse = List.range first
  reached : first ≤ r.enqueued.length

/-- Each open delivery is of a message of its own that is not in the queue. -/
structure Holds (r : Register) (b : Memory) (block : List Nat) (first : Nat) : Prop where
  below : ∀ id h, b.Open id h → id < b.nextDelivery
  number : ∀ id h, b.Open id h → r.number id < first ∧ r.number id ∉ block
  content : ∀ id h, b.Open id h → r.enqueued[r.number id]? = some h.message.unmarked
  distinct : ∀ id j h k, b.Open id h → b.Open j k → r.number id = r.number j → id = j

/-- The register is right about a broker. -/
structure Right (r : Register) (b : Memory) (block : List Nat) (back : List Message) (first : Nat) :
    Prop where
  parts : r.Parts b.ready block back first
  holds : r.Holds b block first
  /-- Only what was handed out can have come back. -/
  returned : ∀ k ∈ r.returned, k < first

variable {r : Register} {b b' : Memory} {block : List Nat} {back : List Message} {first k : Nat}

theorem Parts.mem_handed {ready : List Message} (hp : r.Parts ready block back first) :
    k ∈ r.handed ↔ k < first := by
  rw [← List.mem_range, ← hp.firsts, List.mem_reverse, List.mem_dedup]

theorem Right.fresh : ({} : Register).Right {} [] [] 0 where
  parts := by constructor <;> simp
  holds := by constructor <;> simp [Memory.Open]
  returned := by simp

theorem Holds.of_fewer {r' : Register} (hr : r.Holds b block first)
    (opened : ∀ j h, b'.Open j h → b.Open j h) (next : b'.nextDelivery = b.nextDelivery)
    (number : r'.number = r.number)
    (kept : ∀ (k : Nat) (m : Message), r.enqueued[k]? = some m → r'.enqueued[k]? = some m) :
    r'.Holds b' block first := by
  constructor
  · intro id h ho
    rw [next]
    exact hr.below id h (opened id h ho)
  · intro id h ho
    rw [number]
    exact hr.number id h (opened id h ho)
  · intro id h ho
    rw [number]
    exact kept _ _ (hr.content id h (opened id h ho))
  · intro id j h k ho hk
    rw [number]
    exact hr.distinct id j h k (opened id h ho) (opened j k hk)

theorem getElem?_append_of_some {ms : List Message} {m : Message} (found : ms[k]? = some m)
    (ns : List Message) : (ms ++ ns)[k]? = some m := by
  obtain ⟨hk, -⟩ := List.getElem?_eq_some_iff.1 found
  rw [List.getElem?_append_left hk, found]

theorem Right.enqueued {m : Message} (hr : r.Right b block back first)
    (unmarked : m.redelivered = false) (ready : b'.ready = b.ready ++ [m])
    (opened : ∀ j h, b'.Open j h ↔ b.Open j h) (next : b'.nextDelivery = b.nextDelivery) :
    (r.after (.enqueued m)).Right b' block back first where
  parts := by
    obtain ⟨queue, waiting, again, returned, latest, fresh, firsts, reached⟩ := hr.parts
    refine ⟨?_, ?_, ?_, returned, latest, ?_, firsts, ?_⟩
    · rw [ready, queue, List.append_assoc]
      exact congrArg _ (List.drop_append_of_le_length reached).symm
    · have more : (r.enqueued ++ [m]).length - first = r.enqueued.length - first + 1 := by
        rw [List.length_append, List.length_singleton, Nat.sub_add_comm reached]
      change r.waiting ++ [r.enqueued.length] =
        block ++ List.range' first ((r.enqueued ++ [m]).length - first)
      rw [waiting, List.append_assoc, more, List.range'_concat, Nat.one_mul,
        Nat.add_sub_cancel' reached]
    · exact again.imp fun k m hm => ⟨getElem?_append_of_some hm.1 _, hm.2⟩
    · intro n hn
      rcases List.mem_append.1 hn with old | new
      · exact fresh n old
      · rwa [List.mem_singleton.1 new]
    · change first ≤ (r.enqueued ++ [m]).length
      rw [List.length_append]
      exact Nat.le_add_right_of_le reached
  holds := hr.holds.of_fewer (fun j h => (opened j h).1) next rfl
    fun _ _ found => getElem?_append_of_some found _
  returned := hr.returned

section HandedOut

variable {d : Delivery} {consumer : Option ConsumerId}
  (number : d.id = b.nextDelivery)
  (opened : ∀ j h, b'.Open j h ↔
    j = d.id ∧ h = ⟨d.message, consumer, false⟩ ∨ j ≠ d.id ∧ b.Open j h)
  (next : b'.nextDelivery = b.nextDelivery + 1)
include number opened next

/-- A message that nobody had in hands is handed out. -/
theorem Holds.handOut (hr : r.Holds b block first) {block' : List Nat} {first' : Nat}
    (rest : List Nat) (kept : block' ⊆ block) (grown : first ≤ first')
    (own : ∀ id h, b.Open id h → r.number id ≠ k) (small : k < first') (gone : k ∉ block')
    (content : r.enqueued[k]? = some d.message.unmarked) :
    (r.handOut d.id k rest).Holds b' block' first' := by
  have handed : (r.handOut d.id k rest).number d.id = k := Function.update_self ..
  have others : ∀ j, j ≠ d.id → (r.handOut d.id k rest).number j = r.number j :=
    fun j other => Function.update_of_ne other ..
  constructor
  · intro j h hj
    rw [next]
    rcases (opened j h).1 hj with ⟨rfl, -⟩ | ⟨-, hj⟩
    · exact Nat.lt_succ_of_le (Nat.le_of_eq number)
    · exact Nat.lt_succ_of_lt (hr.below j h hj)
  · intro j h hj
    rcases (opened j h).1 hj with ⟨rfl, -⟩ | ⟨other, hj⟩
    · rw [handed]
      exact ⟨small, gone⟩
    · rw [others j other]
      obtain ⟨below, away⟩ := hr.number j h hj
      exact ⟨Nat.lt_of_lt_of_le below grown, fun back => away (kept back)⟩
  · intro j h hj
    rcases (opened j h).1 hj with ⟨rfl, rfl⟩ | ⟨other, hj⟩
    · rw [handed]
      exact content
    · rw [others j other]
      exact hr.content j h hj
  · intro i j g h hi hj same
    rcases (opened i g).1 hi with ⟨rfl, -⟩ | ⟨iother, hi⟩ <;>
      rcases (opened j h).1 hj with ⟨rfl, -⟩ | ⟨jother, hj⟩
    · rfl
    · rw [handed, others j jother] at same
      exact absurd same.symm (own j h hj)
    · rw [handed, others i iother] at same
      exact absurd same (own i g hi)
    · rw [others i iother, others j jother] at same
      exact hr.distinct i j g h hi hj same

/-- The first of the messages that came back is handed out again. -/
theorem Right.handedOut_again {m : Message} {block : List Nat} {back : List Message}
    (hr : r.Right b (k :: block) (m :: back) first) (ready : b.ready = d.message :: b'.ready) :
    m = d.message ∧ r.waiting.head? = some k ∧
      (r.after (.handedOut d)).Right b' block back first := by
  obtain ⟨queue, waiting, again, returned, latest, fresh, firsts, reached⟩ := hr.parts
  have same := ready.symm.trans queue
  rw [List.cons_append, List.cons.injEq] at same
  obtain ⟨rfl, ready'⟩ := same
  rw [List.cons_append] at waiting
  obtain ⟨first_again, again⟩ := List.forall₂_cons.1 again
  obtain ⟨later, latest⟩ := List.pairwise_cons.1 latest
  have before := returned k List.mem_cons_self
  have small : k < first := hr.parts.mem_handed.1 before.1
  refine ⟨rfl, by rw [waiting]; rfl, ?_⟩
  rw [after_handedOut waiting]
  refine ⟨⟨ready', rfl, again, ?_, latest, fresh, ?_, reached⟩, ?_, hr.returned⟩
  · intro j hj
    obtain ⟨handed, came⟩ := returned j (List.mem_cons_of_mem k hj)
    exact ⟨List.mem_cons_of_mem k handed, came⟩
  · change (k :: r.handed).dedup.reverse = _
    rw [List.dedup_cons_of_mem before.1, firsts]
  · refine hr.holds.handOut number opened next _ (List.subset_cons_self k block) (Nat.le_refl _)
      ?_ small ?_ first_again.1
    · rintro id h ho rfl
      exact (hr.holds.number id h ho).2 List.mem_cons_self
    · exact fun twice => Nat.lt_irrefl _ (later k twice)

/-- When nothing that came back waits, the first message that was never handed out is. -/
theorem Right.handedOut_first (hr : r.Right b [] [] first)
    (ready : b.ready = d.message :: b'.ready) :
    r.enqueued[first]? = some d.message ∧ r.waiting.head? = some first ∧
      (r.after (.handedOut d)).Right b' [] [] (first + 1) := by
  obtain ⟨queue, waiting, -, -, -, fresh, firsts, -⟩ := hr.parts
  rw [List.nil_append] at queue waiting
  have split := queue.symm.trans ready
  have found : r.enqueued[first]? = some d.message := by
    have head := congrArg (·[0]?) split
    simpa using head
  obtain ⟨room, item⟩ := List.getElem?_eq_some_iff.1 found
  have ready' : b'.ready = r.enqueued.drop (first + 1) := by
    rw [← List.tail_drop, split]
    rfl
  have more : r.enqueued.length - first = r.enqueued.length - (first + 1) + 1 := by omega
  rw [more, List.range'_succ] at waiting
  have new : first ∉ r.handed := fun old => Nat.lt_irrefl _ (hr.parts.mem_handed.1 old)
  have plain : d.message.unmarked = d.message := by
    have unmarked := fresh d.message (item ▸ List.getElem_mem room)
    rw [Message.unmarked, ← unmarked]
  refine ⟨found, by rw [waiting]; rfl, ?_⟩
  rw [after_handedOut waiting]
  refine ⟨⟨ready', rfl, .nil, by simp, .nil, fresh, ?_, room⟩, ?_, ?_⟩
  · change (first :: r.handed).dedup.reverse = _
    rw [List.dedup_cons_of_notMem new, List.reverse_cons, firsts, List.range_succ]
  · refine hr.holds.handOut number opened next _ (List.Subset.refl _) (Nat.le_succ _) ?_
      (Nat.lt_succ_self _) List.not_mem_nil (by rw [found, plain])
    exact fun id h ho => Nat.ne_of_lt (hr.holds.number id h ho).1
  · exact fun j hj => Nat.lt_succ_of_lt (hr.returned j hj)

end HandedOut

/-- A message that comes back is in front of all others. -/
theorem Right.returned_front {id : DeliveryId} {h : Held} (hr : r.Right b block back first)
    (ho : b.Open id h) (ready : b'.ready = { h.message with redelivered := true } :: b.ready)
    (opened : ∀ j k, b'.Open j k ↔ j ≠ id ∧ b.Open j k)
    (next : b'.nextDelivery = b.nextDelivery) :
    (r.after (.returned id)).Right b' (r.number id :: block)
      ({ h.message with redelivered := true } :: back) first := by
  obtain ⟨queue, waiting, again, returned, latest, fresh, firsts, reached⟩ := hr.parts
  obtain ⟨small, away⟩ := hr.holds.number id h ho
  have others : (r.after (.returned id)).Holds b' block first :=
    hr.holds.of_fewer (fun j k hk => ((opened j k).1 hk).2) next rfl fun _ _ found => found
  refine ⟨⟨?_, ?_, ?_, ?_, ?_, fresh, firsts, reached⟩, { others with number := ?_ }, ?_⟩
  · rw [ready, queue]
    rfl
  · change r.number id :: r.waiting = _
    rw [waiting]
    rfl
  · exact .cons ⟨hr.holds.content id h ho, rfl⟩ again
  · intro j hj
    rcases List.mem_cons.1 hj with rfl | hj
    · exact ⟨hr.parts.mem_handed.2 small, List.mem_cons_self⟩
    · exact ⟨(returned j hj).1, List.mem_cons_of_mem _ (returned j hj).2⟩
  · -- What has just come back stands in front; every other number moves back by one.
    have moved : ∀ j ∈ block, (r.number id :: r.returned).idxOf j = r.returned.idxOf j + 1 := by
      intro j hj
      refine List.idxOf_cons_ne _ ?_
      rintro rfl
      exact away hj
    refine List.pairwise_cons.2 ⟨?_, ?_⟩
    · intro j hj
      change (r.number id :: r.returned).idxOf _ < (r.number id :: r.returned).idxOf j
      rw [moved j hj, List.idxOf_cons_self]
      exact Nat.succ_pos _
    · refine latest.imp_of_mem ?_
      intro i j hi hj later
      change (r.number id :: r.returned).idxOf i < (r.number id :: r.returned).idxOf j
      rw [moved i hi, moved j hj]
      exact Nat.succ_lt_succ later
  · intro j k hk
    obtain ⟨other, hk⟩ := (opened j k).1 hk
    obtain ⟨below, gone⟩ := hr.holds.number j k hk
    refine ⟨below, fun back => ?_⟩
    rcases List.mem_cons.1 back with same | back
    · exact other (hr.holds.distinct j id k h hk ho same)
    · exact gone back
  · intro j hj
    rcases List.mem_cons.1 hj with rfl | hj
    · exact small
    · exact hr.returned j hj

theorem Right.nothing (hr : r.Right b block back first) (ready : b'.ready = b.ready)
    (opened : ∀ j h, b'.Open j h → b.Open j h) (next : b'.nextDelivery = b.nextDelivery) :
    (r.after .nothing).Right b' block back first where
  parts := by
    rw [ready]
    exact hr.parts
  holds := hr.holds.of_fewer opened next rfl fun _ _ found => found
  returned := hr.returned

/-- The message is the first of those that wait; it is marked just if it was handed out and came
back, and if it was handed out it did come back. -/
def Reports (r : Register) (m : Message) : Prop :=
  ∃ k, r.waiting.head? = some k ∧ r.enqueued[k]? = some m.unmarked ∧
    (m.redelivered = true ↔ k ∈ r.handed ∧ k ∈ r.returned) ∧ (k ∈ r.handed → k ∈ r.returned)

/-- Whatever shifts, the register stays right. -/
theorem Right.shifts {p : Passage} (hr : r.Right b block back first) (hs : b.Shifts p b') :
    ∃ block back first, (r.after p).Right b' block back first := by
  cases hs with
  | enqueued unmarked ready opened next =>
    exact ⟨_, _, _, hr.enqueued unmarked ready opened next⟩
  | handedOut ready number opened next =>
    cases hr.parts.again with
    | nil =>
      obtain ⟨-, -, right⟩ := hr.handedOut_first number opened next ready
      exact ⟨_, _, _, right⟩
    | cons item rest =>
      obtain ⟨-, -, right⟩ := hr.handedOut_again number opened next ready
      exact ⟨_, _, _, right⟩
  | returned ho ready opened next => exact ⟨_, _, _, hr.returned_front ho ready opened next⟩
  | nothing ready opened next => exact ⟨_, _, _, hr.nothing ready opened next⟩

theorem Right.reports {d : Delivery} (hr : r.Right b block back first)
    (hs : b.Shifts (.handedOut d) b') : r.Reports d.message := by
  cases hs with
  | handedOut ready number opened next =>
    cases hr.parts.again with
    | nil =>
      obtain ⟨found, head, -⟩ := hr.handedOut_first number opened next ready
      have new : first ∉ r.handed := fun old => Nat.lt_irrefl _ (hr.parts.mem_handed.1 old)
      have unmarked : d.message.redelivered = false :=
        hr.parts.fresh _ (List.mem_of_getElem? found)
      refine ⟨first, head, ?_, ?_, fun old => absurd old new⟩
      · rw [found, Message.unmarked, ← unmarked]
      · simp [unmarked, new]
    | @cons k m block back item =>
      obtain ⟨rfl, head, -⟩ := hr.handedOut_again number opened next ready
      have before := hr.parts.returned k List.mem_cons_self
      exact ⟨k, head, item.1, iff_of_true item.2 before, fun _ => before.2⟩

end Register

namespace Usage

variable {past : List Passage} {u : Usage}

theorem Run.register_right (run : Run past u) :
    ∃ block back first, (Register.of past).Right u.broker block back first := by
  induction run with
  | start => exact ⟨[], [], 0, .fresh⟩
  | step _ h ih =>
    obtain ⟨block, back, first, hr⟩ := ih
    exact hr.shifts h.shifts

/-- However a broker is used, by any number of publishers and consumers in any order: in its queue
are, all marked and the one that came back last in front, the messages that were handed out and came
back, and behind them, none marked and in the order in which they were put into it, those that were
never handed out. What is handed out for the first time comes in that order, and none is left out. A
message that is handed out is marked just if it was handed out and came back before. -/
theorem Run.hand_out_order (run : Run past u) :
    (∃ block back first, (Register.of past).Parts u.broker.ready block back first) ∧
      ∀ d u', u.Step (.handedOut d) u' → (Register.of past).Reports d.message := by
  obtain ⟨block, back, first, hr⟩ := run.register_right
  refine ⟨⟨block, back, first, hr.parts⟩, ?_⟩
  intro d u' h
  exact hr.reports h.shifts

theorem Run.hand_out_order_of_two_returned :
    ∃ past u, Run past u ∧
      u.broker.ready = [⟨[2], none, true⟩, ⟨[1], none, true⟩, ⟨[3], none, false⟩] ∧
      (Register.of past).waiting = [1, 0, 2] ∧
      (∃ block back first, (Register.of past).Parts u.broker.ready block back first) ∧
      ∀ d u', u.Step (.handedOut d) u' → (Register.of past).Reports d.message := by
  have run : Run _ _ :=
    Run.start.step (.enqueued _ [1] none)
      |>.step (.enqueued _ [2] none)
      |>.step (.enqueued _ [3] none)
      |>.step (.consumed _)
      |>.step (@Step.called _ 0 rfl rfl)
      |>.step (@Step.foundFree _ 0 rfl rfl)
      |>.step (@Step.received _ 0 _ _ rfl rfl)
      |>.step (.taken rfl)
      |>.step (@Step.returned _ 0 _ ⟨rfl, rfl⟩)
      |>.step (@Step.returned _ 1 _ ⟨rfl, rfl⟩)
  exact ⟨_, _, run, rfl, rfl, run.hand_out_order⟩

end Usage
end ReplyPipeline.Broker
