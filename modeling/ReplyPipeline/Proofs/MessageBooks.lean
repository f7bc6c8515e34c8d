import ReplyPipeline.Proofs.Conduct
import ReplyPipeline.Proofs.Deliveries
import ReplyPipeline.Proofs.Playing

/-!
# The books of the broker in memory

Any number of users publish to the broker in memory, put octets into its queue, take messages with
and without a consumer, settle what they were handed, once or again, and let go of it. Beside the
broker books are kept of what was put into the queue, what was acknowledged and which deliveries
have been settled; no step reads them. They show that no message is lost and none is made: a message
that was put into the queue waits, is in somebody's hands, is a dead letter or was acknowledged, and
the counters of the broker say how many there are of each (`Audit.messages_conserved`).
-/
namespace ReplyPipeline

namespace Broker

/-- The message without the mark that it has been handed out before. -/
def Message.unmarked (m : Message) : Message := { m with redelivered := false }

/-- The messages of a list in any order and without marks. -/
def unmarked (ms : List Message) : Multiset Message := (ms.map Message.unmarked : List Message)

@[simp] theorem unmarked_nil : unmarked [] = 0 := rfl

@[simp] theorem unmarked_cons (m : Message) (ms : List Message) :
    unmarked (m :: ms) = {m.unmarked} + unmarked ms := rfl

@[simp] theorem unmarked_append (ms ns : List Message) :
    unmarked (ms ++ ns) = unmarked ms + unmarked ns := by
  simp only [unmarked, List.map_append, Multiset.coe_add]

@[simp] theorem card_unmarked (ms : List Message) : (unmarked ms).card = ms.length := by
  simp only [unmarked, Multiset.coe_card, List.length_map]

namespace Memory

variable {b b' : Memory} {id : DeliveryId} {h : Held}

/-- The deliveries that have neither been settled nor gone away. -/
def unsettled (b : Memory) : List (DeliveryId × Held) := b.held.filter fun p => !p.2.settled

def inHands (b : Memory) : List Message := b.unsettled.map fun p => p.2.message

theorem inHands_of_held_eq (held : b'.held = b.held) : b'.inHands = b.inHands := by
  unfold inHands unsettled
  rw [held]

theorem unmarked_inHands_of_perm {l : List (DeliveryId × Held)} (hp : b.unsettled.Perm l) :
    unmarked b.inHands = unmarked (l.map fun p => p.2.message) := by
  have same := (hp.map fun p => p.2.message).map Message.unmarked
  exact Multiset.coe_eq_coe.2 same

@[simp] theorem freeWindow_published (b : Memory) (h : Held) :
    (b.freeWindow h).published = b.published := by
  unfold freeWindow
  split <;> rfl

@[simp] theorem freeWindow_acked (b : Memory) (h : Held) : (b.freeWindow h).acked = b.acked := by
  unfold freeWindow
  split <;> rfl

theorem take_counts {consumer : Option ConsumerId} {d : Delivery}
    (ht : b.take consumer = some (d, b')) : b'.published = b.published ∧ b'.acked = b.acked := by
  unfold take at ht
  split at ht
  · cases ht
  · cases consumer <;> cases ht <;> exact ⟨rfl, rfl⟩

theorem drop_held_sublist (b : Memory) (id : DeliveryId) : (b.drop id).held.Sublist b.held := by
  unfold drop
  split
  · exact List.Sublist.refl _
  · split
    · exact List.filter_sublist
    · rw [freeWindow_held]
      exact List.filter_sublist

theorem settle_names (b : Memory) (id : DeliveryId) (how : Settlement) :
    (b.settle id how).2.held.map Prod.fst = b.held.map Prod.fst := by
  have marked : (b.markSettled id).held.map Prod.fst = b.held.map Prod.fst := by
    unfold markSettled
    rw [List.map_map]
    refine List.map_congr_left fun p _ => ?_
    dsimp only [Function.comp_apply]
    split <;> rfl
  unfold settle
  split
  · rfl
  · split
    · rfl
    · cases how <;> simpa using marked

/-- What is held after a settlement has been settled, or was held before and is another delivery. -/
theorem mem_settle_held {how : Settlement} (hl : b.held.lookup id = some h)
    (hs : h.settled = false) {p : DeliveryId × Held} (hp : p ∈ (b.settle id how).2.held) :
    p.2.settled = true ∨ p.1 ≠ id ∧ p ∈ b.held := by
  rw [settle_eq how hl hs, freeWindow_held] at hp
  obtain ⟨q, hq, same⟩ := List.mem_map.1 hp
  dsimp only at same
  split at same
  · subst same
    exact .inl rfl
  next other =>
    subst same
    exact .inr ⟨other, hq⟩

section Places

variable (distinct : (b.held.map Prod.fst).Nodup) (hl : b.held.lookup id = some h)
include distinct hl

theorem exists_place : ∃ as bs, b.held = as ++ (id, h) :: bs ∧ ∀ p ∈ as ++ bs, p.1 ≠ id := by
  obtain ⟨as, bs, held, -⟩ := List.lookup_eq_some_iff.1 hl
  refine ⟨as, bs, held, ?_⟩
  rw [held, List.map_append, List.map_cons, List.perm_middle.nodup_iff, List.nodup_cons,
    ← List.map_append] at distinct
  intro p hp same
  apply distinct.1
  exact List.mem_map.2 ⟨p, hp, same⟩

theorem filter_perm :
    b.held.Perm ((id, h) :: b.held.filter fun p => p.1 != id) := by
  obtain ⟨as, bs, held, others⟩ := exists_place distinct hl
  have rest : (b.held.filter fun p => p.1 != id) = as ++ bs := by
    rw [held, List.filter_append, List.filter_cons_of_neg (by simp), ← List.filter_append,
      List.filter_eq_self]
    intro p hp
    simpa using others p hp
  rw [rest, held]
  exact List.perm_middle

theorem drop_unsettled_of_settled (hs : h.settled = true) :
    b.unsettled.Perm (b.drop id).unsettled := by
  have rest := (filter_perm distinct hl).filter fun p => !p.2.settled
  rw [List.filter_cons_of_neg (by simp [hs])] at rest
  rw [drop_of_settled hl hs]
  exact rest

variable (hs : h.settled = false)
include hs

theorem drop_unsettled_of_open : b.unsettled.Perm ((id, h) :: (b.drop id).unsettled) := by
  have rest := (filter_perm distinct hl).filter fun p => !p.2.settled
  rw [List.filter_cons_of_pos (by simp [hs])] at rest
  rw [drop_of_open hl hs, unsettled, unsettled, freeWindow_held]
  exact rest

/-- One delivery less is open when an open one is settled. -/
theorem settle_unsettled (how : Settlement) :
    b.unsettled.Perm ((id, h) :: (b.settle id how).2.unsettled) := by
  have rest := (filter_perm distinct hl).filter fun p => !p.2.settled
  rw [List.filter_cons_of_pos (by simp [hs])] at rest
  have marked : (b.markSettled id).unsettled =
      (b.held.filter fun p => p.1 != id).filter fun p => !p.2.settled := by
    unfold markSettled unsettled
    induction b.held with
    | nil => rfl
    | cons p l ih =>
      by_cases same : p.1 = id <;> simp [List.filter_cons, same, ih]
  rw [settle_eq how hl hs, unsettled, unsettled, freeWindow_held]
  rw [← marked] at rest
  exact rest

end Places

end Memory

/-- What was put into the queue and what was acknowledged, and the deliveries that were settled. -/
structure Books where
  enqueued : List Message := []
  acknowledged : List Message := []
  settled : List DeliveryId := []

/-- The books are right about a broker: each message is in one place, the counters count, and the
deliveries have names of their own, of which those that were settled are open no more. -/
structure Books.Balanced (books : Books) (b : Memory) : Prop where
  messages : unmarked books.enqueued =
    unmarked b.ready + unmarked b.inHands + unmarked b.deadLetters + unmarked books.acknowledged
  published : b.published = books.enqueued.length
  acked : b.acked = books.acknowledged.length
  inFlight : b.inFlight = b.unsettled.length
  distinct : (b.held.map Prod.fst).Nodup
  below : ∀ id ∈ b.held.map Prod.fst, id < b.nextDelivery
  settled : ∀ id ∈ books.settled,
    id < b.nextDelivery ∧ ∀ h, (id, h) ∈ b.held → h.settled = true

namespace Books

/-- The books after a delivery was settled, if that was done. -/
def afterSettling (books : Books) (id : DeliveryId) (m : Message) : Settlement → Books
  | .ack => { books with
      acknowledged := books.acknowledged ++ [m], settled := id :: books.settled }
  | .reject => { books with settled := id :: books.settled }

namespace Balanced

open Memory

variable {books : Books} {b b' : Memory} {id : DeliveryId} {h : Held}

theorem fresh : ({} : Books).Balanced {} := by
  constructor <;> simp [unsettled, inHands]

theorem of_same (hb : books.Balanced b) (ready : b'.ready = b.ready)
    (dead : b'.deadLetters = b.deadLetters) (held : b'.held = b.held)
    (next : b'.nextDelivery = b.nextDelivery) (published : b'.published = b.published)
    (acked : b'.acked = b.acked) (inFlight : b'.inFlight = b.inFlight) : books.Balanced b' := by
  constructor
  · rw [ready, dead, inHands_of_held_eq held, hb.messages]
  · rw [published, hb.published]
  · rw [acked, hb.acked]
  · rw [inFlight, hb.inFlight, unsettled, unsettled, held]
  · rw [held]
    exact hb.distinct
  · rw [held, next]
    exact hb.below
  · rw [held, next]
    exact hb.settled

theorem push (hb : books.Balanced b) (m : Message) :
    { books with enqueued := books.enqueued ++ [m] }.Balanced (b.push m) := by
  constructor
  · change unmarked (books.enqueued ++ [m]) = unmarked (b.ready ++ [m]) + unmarked b.inHands +
      unmarked b.deadLetters + unmarked books.acknowledged
    rw [unmarked_append, unmarked_append, hb.messages]
    abel
  · simp [Memory.push, hb.published]
  · exact hb.acked
  · exact hb.inFlight
  · exact hb.distinct
  · exact hb.below
  · exact hb.settled

theorem take (hb : books.Balanced b) {consumer : Option ConsumerId} {d : Delivery}
    (ht : b.take consumer = some (d, b')) : books.Balanced b' := by
  obtain ⟨rest, ready, ready', number, next, dead, held⟩ := take_eq_some ht
  obtain ⟨published, acked⟩ := take_counts ht
  have handed : b'.unsettled = (d.id, ⟨d.message, consumer, false⟩) :: b.unsettled := by
    rw [unsettled, held]
    exact List.filter_cons_of_pos rfl
  constructor
  · have hands : b'.inHands = d.message :: b.inHands := by
      rw [inHands, handed]
      rfl
    rw [hb.messages, ready, ready', dead, hands, unmarked_cons, unmarked_cons]
    abel
  · rw [published, hb.published]
  · rw [acked, hb.acked]
  · rw [take_inFlight ht, hb.inFlight, handed, List.length_cons]
  · rw [held, List.map_cons, List.nodup_cons]
    refine ⟨?_, hb.distinct⟩
    intro old
    exact Nat.ne_of_lt (hb.below d.id old) number
  · rw [held, next, List.map_cons]
    intro j hj
    rcases List.mem_cons.1 hj with rfl | old
    · exact number ▸ Nat.lt_succ_self _
    · exact Nat.lt_succ_of_lt (hb.below j old)
  · intro j hj
    obtain ⟨old, settled⟩ := hb.settled j hj
    rw [held, next]
    refine ⟨Nat.lt_succ_of_lt old, ?_⟩
    intro k hk
    rcases List.mem_cons.1 hk with same | hk
    · cases same
      exact absurd number (Nat.ne_of_lt old)
    · exact settled k hk

theorem settle (hb : books.Balanced b) (hl : b.held.lookup id = some h) (hs : h.settled = false)
    (how : Settlement) :
    (books.afterSettling id h.message how).Balanced (b.settle id how).2 := by
  have handed := settle_unsettled hb.distinct hl hs how
  have hands : unmarked b.inHands =
      {h.message.unmarked} + unmarked (b.settle id how).2.inHands := unmarked_inHands_of_perm handed
  have names := settle_names b id how
  have result := congrArg Prod.snd (settle_eq how hl hs)
  have next : (b.settle id how).2.nextDelivery = b.nextDelivery := by
    rw [result, freeWindow_nextDelivery]
    rfl
  constructor
  · have messages := hb.messages
    rw [hands] at messages
    rw [result] at messages ⊢
    cases how with
    | ack =>
      simp only [afterSettling, freeWindow_ready, freeWindow_deadLetters, unmarked_append,
        unmarked_cons, unmarked_nil, markSettled, messages]
      abel
    | reject =>
      simp only [afterSettling, freeWindow_ready, freeWindow_deadLetters, unmarked_append,
        unmarked_cons, unmarked_nil, markSettled, messages]
      abel
  · rw [result, freeWindow_published]
    cases how <;> exact hb.published
  · rw [result, freeWindow_acked]
    cases how with
    | ack => simp [afterSettling, hb.acked]
    | reject => exact hb.acked
  · have opened := handed.length_eq
    rw [List.length_cons, ← hb.inFlight] at opened
    rw [settle_inFlight how hl hs, opened, Nat.add_sub_cancel]
  · rw [names]
    exact hb.distinct
  · rw [names, next]
    exact hb.below
  · intro j hj
    have older : j = id ∨ j ∈ books.settled := by
      cases how <;> exact List.mem_cons.1 hj
    have place : (id, h) ∈ b.held := (filter_perm hb.distinct hl).mem_iff.2 List.mem_cons_self
    rw [next]
    constructor
    · rcases older with rfl | old
      · exact hb.below _ (List.mem_map_of_mem place)
      · exact (hb.settled j old).1
    · intro k hk
      rcases mem_settle_held hl hs hk with settled | ⟨other, hk⟩
      · exact settled
      · exact (hb.settled j (older.resolve_left other)).2 k hk

theorem drop (hb : books.Balanced b) (id : DeliveryId) : books.Balanced (b.drop id) := by
  have kept := drop_held_sublist b id
  have distinct := hb.distinct.sublist (kept.map Prod.fst)
  have below : ∀ j ∈ (b.drop id).held.map Prod.fst, j < (b.drop id).nextDelivery := by
    rw [drop_nextDelivery]
    exact fun j hj => hb.below j ((kept.map Prod.fst).subset hj)
  have settled : ∀ j ∈ books.settled,
      j < (b.drop id).nextDelivery ∧ ∀ k, (j, k) ∈ (b.drop id).held → k.settled = true := by
    rw [drop_nextDelivery]
    exact fun j hj => ⟨(hb.settled j hj).1, fun k hk => (hb.settled j hj).2 k (kept.subset hk)⟩
  cases hl : b.held.lookup id with
  | none => rwa [drop_of_none hl]
  | some h =>
    cases hs : h.settled with
    | true =>
      have handed := drop_unsettled_of_settled hb.distinct hl hs
      have hands : unmarked b.inHands = unmarked (b.drop id).inHands :=
        unmarked_inHands_of_perm handed
      have result := drop_of_settled hl hs
      refine ⟨?_, ?_, ?_, ?_, distinct, below, settled⟩
      · rw [← hands, result, hb.messages]
      · rw [result, hb.published]
      · rw [result, hb.acked]
      · rw [← handed.length_eq, ← hb.inFlight, result]
    | false =>
      have handed := drop_unsettled_of_open hb.distinct hl hs
      have hands : unmarked b.inHands = {h.message.unmarked} + unmarked (b.drop id).inHands :=
        unmarked_inHands_of_perm handed
      have result := drop_of_open hl hs
      refine ⟨?_, ?_, ?_, ?_, distinct, below, settled⟩
      · have messages := hb.messages
        rw [hands] at messages
        rw [messages, drop_deadLetters, drop_ready, hl]
        simp only [Option.filter, hs, Bool.not_false, if_true, Option.toList_some, List.map_cons,
          List.map_nil, List.singleton_append, unmarked_cons]
        simp only [Message.unmarked]
        abel
      · rw [result, freeWindow_published]
        exact hb.published
      · rw [result, freeWindow_acked]
        exact hb.acked
      · have opened := handed.length_eq
        rw [List.length_cons, ← hb.inFlight] at opened
        -- The delivery is counted among the open ones, so the subtraction takes one away.
        rw [result, freeWindow_inFlight, ← result]
        change b.inFlight - 1 = _
        omega

end Balanced

def after (books : Books) (b : Memory) : Exchange → Books
  | ⟨.publish e _, some (.ok ())⟩ => { books with enqueued := books.enqueued ++ [.ofEnvelope e] }
  | ⟨.settle id how, .ok ()⟩ =>
    match b.held.lookup id with
    | some h => books.afterSettling id h.message how
    | none => books
  | _ => books

theorem after_publish_of_ne (books : Books) (b : Memory) {e : Envelope} {deadline : Option Moment}
    {a : Option (Except Error Unit)} (failed : a ≠ some (.ok ())) :
    books.after b ⟨.publish e deadline, a⟩ = books := by
  match a with
  | none => rfl
  | some (.error _) => rfl
  | some (.ok ()) => exact absurd rfl failed

variable {books : Books} {b : Memory} {m m' : Record}

theorem Balanced.settle_answered (hb : books.Balanced b) (id : DeliveryId) (how : Settlement) :
    (books.after b ⟨.settle id how, (b.settle id how).1⟩).Balanced (b.settle id how).2 := by
  cases hl : b.held.lookup id with
  | none =>
    rw [Memory.settle_of_not_open how (by rw [hl]; rfl)]
    exact hb
  | some h =>
    cases hs : h.settled with
    | true =>
      rw [Memory.settle_of_not_open how (by simp [hl, hs])]
      exact hb
    | false =>
      have done := hb.settle hl hs how
      rw [Memory.settle_eq how hl hs] at done ⊢
      simp only [after, hl]
      exact done

/-- The books stay right whatever is asked and however it is answered. -/
theorem Balanced.answered {r : PipelineRequest} {a : r.Answer} (hb : books.Balanced m.broker)
    (ha : m.Answers r a m') : (books.after m.broker ⟨r, a⟩).Balanced m'.broker := by
  cases r with
  | publish e deadline =>
    rcases ha with ⟨rfl, rfl⟩ | ⟨failed, rfl⟩
    · exact hb.push (.ofEnvelope e)
    · rw [books.after_publish_of_ne _ failed]
      exact hb
  | settle id how =>
    rcases ha with ⟨rfl, rfl⟩ | ⟨⟨e, rfl⟩, rfl⟩
    · exact hb.settle_answered id how
    · exact hb
  | next c stop limit =>
    rcases ha with ⟨d, b, handed, -, rfl⟩ | rfl
    · exact hb.take (Memory.take_of_next handed)
    · exact hb
  | drop id =>
    cases ha
    exact hb.drop id
  | declareTopology deadline =>
    rcases ha with ⟨-, rfl⟩ | ⟨-, rfl⟩
    · exact hb.of_same rfl rfl rfl rfl rfl rfl rfl
    · exact hb
  | consume =>
    rcases ha with ⟨-, rfl⟩ | ⟨-, rfl⟩
    · exact hb.of_same rfl rfl rfl rfl rfl rfl rfl
    · exact hb
  | leave c =>
    cases ha
    exact hb.of_same rfl rfl rfl rfl rfl rfl rfl
  | store call limit => rcases ha with ⟨-, rfl⟩ | ⟨-, rfl⟩ <;> exact hb
  | reply => rcases ha with ⟨-, rfl⟩ | ⟨-, rfl⟩ <;> exact hb
  | now => rcases ha with ⟨-, rfl⟩; exact hb
  | _ => cases ha; exact hb

end Books

end Broker

open Broker (Books unmarked)

/-- A world in which a broker is used, and the books that are kept of it. -/
structure Audit where
  world : World
  books : Books := {}

namespace Audit

/-- One use of the broker, or something else that goes on. -/
inductive Step : Audit → Audit → Prop
  /-- Somebody's request is answered, whenever it was made. -/
  | answered {s : Audit} {w₀ w : World} {r : PipelineRequest} {a : r.Answer} :
      (w₀.begin r).2.poll s.world = some (a, w) →
      Step s ⟨w, s.books.after s.world.broker ⟨r, a⟩⟩
  /-- Octets are put into the queue as they are. -/
  | enqueued (s : Audit) (body : Bytes) (correlationId : Option String) :
      Step s
        { world := { s.world with broker := s.world.broker.push ⟨body, correlationId, false⟩ }
          books := { s.books with enqueued := s.books.enqueued ++ [⟨body, correlationId, false⟩] } }
  /-- The first message is taken without waiting. -/
  | taken {s : Audit} {d : Broker.Delivery} {b : Broker.Memory} :
      s.world.broker.take none = some (d, b) →
      Step s { s with world := { s.world with broker := b } }
  | closed (s : Audit) :
      Step s { s with world := { s.world with broker := s.world.broker.close } }
  | drifted {s : Audit} {w : World} : s.world.Drifts w → Step s { s with world := w }

/-- What can come of a start. -/
inductive Reaches (start : Audit) : Audit → Prop
  | refl : Reaches start start
  | step {s s' : Audit} : Reaches start s → Step s s' → Reaches start s'

variable {start s s' : Audit}

theorem Step.balanced (h : Step s s') (hb : s.books.Balanced s.world.broker) :
    s'.books.Balanced s'.world.broker := by
  cases h with
  | answered hp => exact hb.answered (World.answers_of_poll hp)
  | enqueued body correlationId => exact hb.push _
  | taken ht => exact hb.take ht
  | closed => exact hb.of_same rfl rfl rfl rfl rfl rfl rfl
  | @drifted w hd =>
    have kept : w.broker = s.world.broker := congrArg Record.broker hd.2
    dsimp only
    rw [kept]
    exact hb

theorem Reaches.balanced (run : Reaches start s) (fresh : start.world.broker = {})
    (blank : start.books = {}) : s.books.Balanced s.world.broker := by
  induction run with
  | refl =>
    rw [fresh, blank]
    exact .fresh
  | step _ h ih => exact h.balanced ih

/-- However the broker is used, by any number of users in any order: what was ever put into the
queue is, but for the marks, what waits in it, what is in the hands of those who have not settled
it, the dead letters and what was acknowledged; the four numbers add up to that of all publications;
what counts as in flight are the open deliveries, so that settling one or letting go of it always
finds it counted; and what has been settled cannot be settled again. -/
theorem messages_conserved (fresh : start.world.broker = {}) (blank : start.books = {})
    (run : Reaches start s) :
    unmarked s.books.enqueued =
      unmarked s.world.broker.ready + unmarked s.world.broker.inHands +
        unmarked s.world.broker.deadLetters + unmarked s.books.acknowledged ∧
    s.world.broker.published =
      s.world.broker.ready.length + s.world.broker.inFlight +
        s.world.broker.deadLetters.length + s.world.broker.acked ∧
    s.world.broker.inFlight = s.world.broker.unsettled.length ∧
    (∀ id h, s.world.broker.held.lookup id = some h → h.settled = false →
      (∀ how, (s.world.broker.settle id how).2.inFlight + 1 = s.world.broker.inFlight) ∧
        (s.world.broker.drop id).inFlight + 1 = s.world.broker.inFlight) ∧
    ∀ id ∈ s.books.settled, ∀ how, s.world.broker.settle id how =
      (.error (.settle "delivery already settled"), s.world.broker) := by
  have hb := run.balanced fresh blank
  refine ⟨hb.messages, ?_, hb.inFlight, ?_, ?_⟩
  · have count := congrArg Multiset.card hb.messages
    simp only [Multiset.card_add, Broker.card_unmarked, Broker.Memory.inHands, List.length_map]
      at count
    rw [hb.published, hb.inFlight, hb.acked]
    exact count
  · intro id h hl hs
    constructor
    · intro how
      have one := (Broker.Memory.settle_unsettled hb.distinct hl hs how).length_eq
      have settled := hb.settle hl hs how
      rw [settled.inFlight, hb.inFlight, one, List.length_cons]
    · have one := (Broker.Memory.drop_unsettled_of_open hb.distinct hl hs).length_eq
      rw [(hb.drop id).inFlight, hb.inFlight, one, List.length_cons]
  · intro id hid how
    apply Broker.Memory.settle_of_not_open
    cases hl : s.world.broker.held.lookup id with
    | none => rfl
    | some h =>
      -- It has not gone away yet, but the books say that it is open no more.
      have place := (Broker.Memory.filter_perm hb.distinct hl).mem_iff.2 List.mem_cons_self
      exact (hb.settled id hid).2 h place

/-- Two messages; the first is acknowledged, and then rejected in vain; the second is let go of. -/
theorem messages_conserved_of_redelivery :
    ∃ s, Reaches ⟨Traffic.quiet.world, {}⟩ s ∧ s.books.settled = [0] ∧
      s.books.enqueued = [⟨[1], none, false⟩, ⟨[2], none, false⟩] ∧
      s.world.broker.ready = [⟨[2], none, true⟩] ∧
      unmarked s.books.enqueued =
        unmarked s.world.broker.ready + unmarked s.world.broker.inHands +
          unmarked s.world.broker.deadLetters + unmarked s.books.acknowledged := by
  let w := Traffic.quiet.world
  have run : Reaches ⟨w, {}⟩ _ :=
    Reaches.refl.step (.enqueued _ [1] none)
      |>.step (.enqueued _ [2] none)
      |>.step (.taken rfl)
      |>.step (@Step.answered _ w _ (.settle 0 .ack) _ rfl)
      |>.step (@Step.answered _ w _ (.settle 0 .reject) _ rfl)
      |>.step (.taken rfl)
      |>.step (@Step.answered _ w _ (.drop 1) _ rfl)
  exact ⟨_, run, rfl, rfl, rfl, (messages_conserved rfl rfl run).1⟩

end Audit
end ReplyPipeline
