import ReplyPipeline.Proofs.Custody

/-!
# Lineage of messages

The ledger is right: in all traffic, each message of the two queues and each delivery that the
ledger or its handling traces to an intake has come from the message which that intake published,
by going back into the queue and by being published again after failed attempts. Messages that were
there before are traced to no intake.
-/
namespace ReplyPipeline

/-- The message that was published in a history, or what has become of it. -/
inductive Broker.Message.Descends (past : History) : Broker.Message → Prop
  | published {e : Envelope} {deadline : Option Moment} :
      (⟨.publish e deadline, some (.ok ())⟩ : Exchange) ∈ past → Descends past (.ofEnvelope e)
  | returned {m : Broker.Message} : Descends past m → Descends past { m with redelivered := true }
  | republished {m : Broker.Message} {e : Envelope} : Descends past m →
      Envelope.ofBytes m.body = .ok e → Descends past (.ofEnvelope e.recordFailure)

theorem Broker.Message.Descends.mono {past past' : History} {m : Broker.Message}
    (h : m.Descends past) (hp : ∀ x ∈ past, x ∈ past') : m.Descends past' := by
  induction h with
  | published he => exact .published (hp _ he)
  | returned _ ih => exact .returned ih
  | republished _ he ih => exact .republished ih he

/-- What an exchange or a cut does to the two queues and, along with it, to the ledger. What gets
into a queue has the property `P`. -/
inductive QueueChange (P : Broker.Message → Prop) (origin : Option Nat) (l l' : Ledger)
    (b b' : Broker.Memory) : Prop
  | same : l' = l → b'.ready = b.ready → b'.deadLetters = b.deadLetters →
      QueueChange P origin l l' b b'
  | pushed {m : Broker.Message} : P m → l' = { l with ready := l.ready ++ [origin] } →
      b'.ready = b.ready ++ [m] → b'.deadLetters = b.deadLetters → QueueChange P origin l l' b b'
  | buried {m : Broker.Message} : P m → l' = { l with dead := l.dead ++ [origin] } →
      b'.ready = b.ready → b'.deadLetters = b.deadLetters ++ [m] → QueueChange P origin l l' b b'
  | returned {m : Broker.Message} : P m → l' = { l with ready := origin :: l.ready } →
      b'.ready = m :: b.ready → b'.deadLetters = b.deadLetters → QueueChange P origin l l' b b'

namespace QueueChange

variable {P : Broker.Message → Prop} {origin : Option Nat} {l : Ledger} {b : Broker.Memory}
  {r : PipelineRequest} {a : r.Answer} {m m' : Record}

/-- A delivery that goes away comes back if it was not settled. -/
theorem of_drop {id : Broker.DeliveryId}
    (hold : ∀ h, b.held.lookup id = some h → P { h.message with redelivered := true }) :
    QueueChange P origin l (l.drop origin b id) b (b.drop id) := by
  have dead := Broker.Memory.drop_deadLetters b id
  unfold Ledger.drop
  cases hl : b.held.lookup id with
  | none => exact .same rfl (by rw [Broker.Memory.drop_of_none hl]) dead
  | some h =>
    cases hs : h.settled with
    | true => exact .same (by simp [hs]) (Broker.Memory.drop_ready_of_settled hl hs) dead
    | false =>
      exact .returned (hold h hl) (by simp [hs]) (Broker.Memory.drop_ready_of_open hl hs) dead

/-- While an event is taken in, all that gets into a queue is what the intake publishes. -/
theorem of_intake {g : Gateway} {event : Event} {s : IntakeStanding} (hr : s.allows g event r)
    (ha : m.Answers r a m')
    (published : ∀ e deadline, (⟨r, a⟩ : Exchange) = ⟨.publish e deadline, some (.ok ())⟩ →
      P (.ofEnvelope e)) :
    QueueChange P origin l (l.after origin m.broker (.answered ⟨r, a⟩)) m.broker m'.broker := by
  cases r with
  | publish e deadline =>
    rcases ha with ⟨rfl, rfl⟩ | ⟨failed, rfl⟩
    · exact .pushed (published e deadline rfl) rfl rfl rfl
    · exact .same (l.after_publish_of_ne origin _ failed) rfl rfl
  | declareTopology deadline =>
    rcases ha with ⟨-, rfl⟩ | ⟨-, rfl⟩ <;> exact .same rfl rfl rfl
  | store call limit => rcases ha with ⟨-, rfl⟩ | ⟨-, rfl⟩ <;> exact .same rfl rfl rfl
  | now => obtain ⟨-, rfl⟩ := ha; exact .same rfl rfl rfl
  | wallClock => cases ha; exact .same rfl rfl rfl
  | _ => cases s <;> exact hr.elim

/-- While a delivery is handled, all that gets into a queue is its message, as it is or with one
more failed attempt. -/
theorem of_handling {x : TaskHandler} {d : Broker.Delivery} {s : HandlingStanding}
    (hr : s.allows x d r) (ha : m.Answers r a m')
    (hold : ∃ c, m.broker.held.lookup d.id = some ⟨d.message, c, s.isSettled⟩)
    (buried : P d.message) (returned : P { d.message with redelivered := true })
    (pushed : ∀ e, Envelope.ofBytes d.message.body = .ok e → P (.ofEnvelope e.recordFailure)) :
    QueueChange P origin l (l.after origin m.broker (.answered ⟨r, a⟩)) m.broker m'.broker := by
  obtain ⟨c, hold⟩ := hold
  cases r with
  | publish e deadline =>
    obtain ⟨-, task, he, rfl⟩ := hr
    rcases ha with ⟨rfl, rfl⟩ | ⟨failed, rfl⟩
    · exact .pushed (pushed task he) rfl rfl rfl
    · exact .same (l.after_publish_of_ne origin _ failed) rfl rfl
  | settle id how =>
    obtain ⟨rfl, fresh⟩ := HandlingStanding.settlement_of_allows hr
    obtain ⟨ok, done⟩ :=
      Broker.Memory.settle_of_open how hold (HandlingStanding.isSettled_of_none fresh)
    rcases ha with ⟨rfl, rfl⟩ | ⟨⟨e, rfl⟩, rfl⟩
    · rw [ok]
      have dead := done.dead
      cases how with
      | ack =>
        rw [if_neg nofun, List.append_nil] at dead
        exact .same rfl done.ready dead
      | reject =>
        rw [if_pos rfl] at dead
        exact .buried buried rfl done.ready dead
    · cases how <;> exact .same rfl rfl rfl
  | drop id =>
    obtain ⟨rfl, -, -⟩ := hr
    cases ha
    refine of_drop fun h hl => ?_
    rw [hold] at hl
    cases hl
    exact returned
  | reply => rcases ha with ⟨rfl, rfl⟩ | ⟨⟨e, rfl⟩, rfl⟩ <;> exact .same rfl rfl rfl
  | store call limit => rcases ha with ⟨-, rfl⟩ | ⟨-, rfl⟩ <;> exact .same rfl rfl rfl
  | process e limit => cases ha; exact .same rfl rfl rfl
  | pause t => cases ha; exact .same rfl rfl rfl
  | tally k => cases ha; exact .same rfl rfl rfl
  | _ => exact hr.elim

end QueueChange

namespace Traffic

variable {g : Gateway} {x : TaskHandler} {permits : Happening → Bool} {start s s' : Traffic}
  {what : Happening}

/-- A message has come from the intake that it is traced to, if it is traced to one. -/
def GoesBack (s : Traffic) (origin : Option Nat) (m : Broker.Message) : Prop :=
  ∀ k, origin = some k → ∃ i, s.intakes[k]? = some i ∧ m.Descends i.thread.past

/-- The ledger is right. -/
structure Traced (s : Traffic) : Prop where
  ready : List.Forall₂ s.GoesBack s.ledger.ready s.world.broker.ready
  dead : List.Forall₂ s.GoesBack s.ledger.dead s.world.broker.deadLetters
  handled : ∀ h ∈ s.handlings, s.GoesBack h.origin h.delivery.message

/-- Nothing is under way, and no message is traced to an intake. -/
structure Idle (s : Traffic) : Prop where
  intakes : s.intakes = []
  handlings : s.handlings = []
  ready : s.ledger.ready = s.world.broker.ready.map fun _ => none
  dead : s.ledger.dead = s.world.broker.deadLetters.map fun _ => none

theorem Traced.of_idle (h : s.Idle) : s.Traced := by
  have none_back (m : Broker.Message) : s.GoesBack none m := nofun
  refine ⟨?_, ?_, by simp [h.handlings]⟩
  · rw [h.ready, List.forall₂_map_left_iff, List.forall₂_same]
    exact fun m _ => none_back m
  · rw [h.dead, List.forall₂_map_left_iff, List.forall₂_same]
    exact fun m _ => none_back m

/-- The intakes stay where they are, and their histories grow. -/
def Grows (s s' : Traffic) : Prop :=
  ∀ (k : Nat) (i : Intake), s.intakes[k]? = some i →
    ∃ i' : Intake, s'.intakes[k]? = some i' ∧ ∀ y ∈ i.thread.past, y ∈ i'.thread.past

theorem Grows.of_eq (h : s'.intakes = s.intakes) : s.Grows s' :=
  fun _ i hi => ⟨i, by rw [h]; exact hi, fun _ hy => hy⟩

theorem Grows.of_intake {as bs : List Intake} {i i' : Intake} (hl : s.intakes = as ++ i :: bs)
    (hl' : s'.intakes = as ++ i' :: bs) (past : ∀ y ∈ i.thread.past, y ∈ i'.thread.past) :
    s.Grows s' := by
  intro k j hj
  rw [hl', getElem?_replaced as bs i i' k]
  rw [hl] at hj
  by_cases hk : k = as.length
  · subst hk
    rw [List.getElem?_append_right (Nat.le_refl _), Nat.sub_self] at hj
    cases hj
    exact ⟨i', if_pos rfl, past⟩
  · exact ⟨j, by rw [if_neg hk]; exact hj, fun _ hy => hy⟩

theorem GoesBack.mono {origin : Option Nat} {m : Broker.Message} (h : s.GoesBack origin m)
    (grows : s.Grows s') : s'.GoesBack origin m := by
  intro k hk
  obtain ⟨i, hi, descends⟩ := h k hk
  obtain ⟨i', hi', past⟩ := grows k i hi
  exact ⟨i', hi', descends.mono past⟩

theorem GoesBack.returned {origin : Option Nat} {m : Broker.Message} (h : s.GoesBack origin m) :
    s.GoesBack origin { m with redelivered := true } := by
  intro k hk
  obtain ⟨i, hi, descends⟩ := h k hk
  exact ⟨i, hi, descends.returned⟩

theorem GoesBack.republished {origin : Option Nat} {m : Broker.Message} {e : Envelope}
    (h : s.GoesBack origin m) (he : Envelope.ofBytes m.body = .ok e) :
    s.GoesBack origin (.ofEnvelope e.recordFailure) := by
  intro k hk
  obtain ⟨i, hi, descends⟩ := h k hk
  exact ⟨i, hi, descends.republished he⟩

/-- A ledger stays right when the queues change along with it. -/
theorem Traced.of_queueChange (hs : s.Traced) (origin : Option Nat) (grows : s.Grows s')
    (change : QueueChange (s'.GoesBack origin) origin s.ledger s'.ledger s.world.broker
      s'.world.broker)
    (handled : ∀ h ∈ s'.handlings, s'.GoesBack h.origin h.delivery.message) : s'.Traced := by
  have ready := hs.ready.imp fun _ _ h => GoesBack.mono h grows
  have dead := hs.dead.imp fun _ _ h => GoesBack.mono h grows
  cases change with
  | same hl hr hd => exact ⟨by rw [hl, hr]; exact ready, by rw [hl, hd]; exact dead, handled⟩
  | pushed hp hl hr hd =>
    refine ⟨?_, by rw [hl, hd]; exact dead, handled⟩
    rw [hl, hr]
    exact List.rel_append ready (.cons hp .nil)
  | buried hp hl hr hd =>
    refine ⟨by rw [hl, hr]; exact ready, ?_, handled⟩
    rw [hl, hd]
    exact List.rel_append dead (.cons hp .nil)
  | returned hp hl hr hd =>
    refine ⟨?_, by rw [hl, hd]; exact dead, handled⟩
    rw [hl, hr]
    exact .cons hp ready

theorem Traced.take (hs : s.Traced) {consumer : Option Broker.ConsumerId} {d : Broker.Delivery}
    {b : Broker.Memory} (ht : s.world.broker.take consumer = some (d, b)) :
    (taking x s d b).Traced := by
  obtain ⟨rest, ready, ready', -, -, dead, -⟩ := Broker.Memory.take_eq_some ht
  obtain ⟨traced, buried, handled⟩ := hs
  rw [ready] at traced
  obtain ⟨o, os, back, others, ledger⟩ := List.forall₂_cons_right_iff.1 traced
  refine ⟨?_, ?_, List.forall_mem_append.2 ⟨handled, List.forall_mem_singleton.2 ?_⟩⟩
  · simp only [taking, ledger, List.tail_cons]
    rw [ready']
    exact others
  · simp only [taking]
    rw [dead]
    exact buried
  · simp only [ledger, List.head?_cons, Option.join_some]
    exact back

theorem Traced.intake (hs : s.Traced) {as bs : List Intake} {i : Intake} {t : Thread GatewayAnswer}
    {w : World} (hl : s.intakes = as ++ i :: bs)
    (h : i.Advances g { i with thread := t } s.world.record w.record what) :
    Traced
      { s with
        world := w
        intakes := as ++ { i with thread := t } :: bs
        ledger := s.ledger.after (some as.length) s.world.broker what } := by
  generalize hs' : Traffic.mk w (as ++ { i with thread := t } :: bs) s.handlings
    (s.ledger.after (some as.length) s.world.broker what) = s'
  have hl' : s'.intakes = as ++ { i with thread := t } :: bs := by rw [← hs']
  have grows : s.Grows s' := by
    refine .of_intake hl hl' fun y hy => ?_
    cases h with
    | asked past => exact past ▸ hy
    | answered _ _ past => exact past ▸ List.mem_cons_of_mem _ hy
  have change : QueueChange (s'.GoesBack (some as.length)) (some as.length) s.ledger s'.ledger
      s.world.broker s'.world.broker := by
    cases h with
    | asked _ _ same =>
      have brokers : w.broker = s.world.broker := congrArg Record.broker same
      rw [← hs']
      exact .same rfl (by rw [brokers]) (by rw [brokers])
    | answered hr ha past =>
      subst hs'
      refine .of_intake hr ha fun e deadline hx => ?_
      rintro k ⟨⟩
      refine ⟨{ i with thread := t }, by simp, @Broker.Message.Descends.published _ e deadline ?_⟩
      rw [past, hx]
      exact List.mem_cons_self
  refine hs.of_queueChange _ grows change fun h hh => ?_
  subst hs'
  exact (hs.handled h hh).mono grows

theorem Traced.handling (hs : s.Traced) {as bs : List Handling} {h : Handling}
    {t : Thread DeliveryOutcome} {w : World} (hl : s.handlings = as ++ h :: bs)
    (ht : h.Advances x { h with thread := t } s.world.record w.record what) :
    Traced
      { s with
        world := w
        handlings := as ++ { h with thread := t } :: bs
        ledger := s.ledger.after h.origin s.world.broker what } := by
  have back := hs.handled h (by simp [hl])
  have handled : ∀ k ∈ as ++ { h with thread := t } :: bs,
      s.GoesBack k.origin k.delivery.message := forall_mem_replaced hl hs.handled back
  cases ht with
  | asked _ _ same =>
    have brokers : w.broker = s.world.broker := congrArg Record.broker same
    exact hs.of_queueChange none (.of_eq rfl)
      (.same rfl (by rw [brokers]) (by rw [brokers])) handled
  | answered hr ha _ _ hold =>
    refine hs.of_queueChange _ (.of_eq rfl) (.of_handling hr ha hold back back.returned ?_) handled
    exact fun e he => back.republished he

theorem Traced.cut (hs : s.Traced) {as bs : List Handling} {h : Handling} {t : Thread DeliveryOutcome}
    (hl : s.handlings = as ++ h :: bs) (custody : h.Custody s.world.broker) :
    Traced
      { s with
        world := { s.world with broker := s.world.broker.drop h.delivery.id }
        handlings := as ++ { h with thread := t } :: bs
        ledger := s.ledger.drop h.origin s.world.broker h.delivery.id } := by
  have back := hs.handled h (by simp [hl])
  refine hs.of_queueChange _ (.of_eq rfl) (QueueChange.of_drop fun held hlookup => ?_)
    (forall_mem_replaced hl hs.handled back)
  unfold Handling.Custody at custody
  split at custody
  · rw [custody] at hlookup
    cases hlookup
  · obtain ⟨c, hold⟩ := custody
    rw [hold] at hlookup
    cases hlookup
    exact back.returned

/-- A ledger that is right stays right. -/
theorem Traced.step (hs : s.Traced) (sound : s.Sound g x) (h : Step g x s what s') :
    s'.Traced := by
  cases h with
  | arrive event =>
    have grows : s.Grows { s with intakes := s.intakes ++ [⟨event, { rest := g.handle event }⟩] } := by
      intro k i hi
      refine ⟨i, ?_, fun _ hy => hy⟩
      rw [List.getElem?_append_left (List.getElem?_eq_some_iff.1 hi).1]
      exact hi
    exact hs.of_queueChange none grows (.same rfl rfl rfl)
      fun h hh => (hs.handled h hh).mono grows
  | take ht => exact hs.take ht
  | intake hl ht => exact hs.intake hl (sound.intake_advances (by simp [hl]) ht)
  | handling hl ht => exact hs.handling hl (sound.handling_advances (by simp [hl]) ht)
  | @crashIntake as bs i hl =>
    have grows : s.Grows { s with
        intakes := as ++ { i with thread := { i.thread with alive := false } } :: bs } :=
      .of_intake hl rfl fun _ hy => hy
    exact hs.of_queueChange none grows (.same rfl rfl rfl)
      fun h hh => (hs.handled h hh).mono grows
  | @crashHandling as bs h hl alive => exact hs.cut hl (sound.custody h (by simp [hl]))
  | @drift w hd =>
    have brokers : w.broker = s.world.broker := congrArg Record.broker hd.2
    exact hs.of_queueChange none (.of_eq rfl)
      (.same rfl (by rw [brokers]) (by rw [brokers])) hs.handled
  | intrude store =>
    exact hs.of_queueChange none (.of_eq rfl) (.same rfl rfl rfl) hs.handled

end Traffic
end ReplyPipeline
