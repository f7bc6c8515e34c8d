import ReplyPipeline.Proofs.Deliveries
import ReplyPipeline.Proofs.HandlingHistory
import ReplyPipeline.Proofs.Playing

/-!
# Custody of deliveries

In any traffic each program keeps its code, and the broker holds exactly the deliveries that are
being handled, settled or not as their handlings say. Nothing is assumed of the surroundings but
that the traffic began with nothing under way.
-/
namespace ReplyPipeline

namespace Thread

variable {α σ : Type} {c : Code σ} {ends : σ → α → Prop} {start : σ} {t t' : Thread α}
  {w w' : World} {what : Happening}

/-- What has been asked was allowed, and what is left keeps the code. -/
structure Keeps (c : Code σ) (ends : σ → α → Prop) (start : σ) (t : Thread α) : Prop where
  kept : c.Kept start t.past
  rest : c.Binds ends (c.standing start t.past) t.rest

theorem Step.alive (h : t.Step w what t' w') : t.alive = true ∧ t'.alive = true := by
  cases h <;> exact ⟨rfl, rfl⟩

theorem Step.keeps (h : t.Step w what t' w') (ht : t.Keeps c ends start) :
    t'.Keeps c ends start := by
  cases h with
  | ask => exact ⟨ht.kept, ht.rest⟩
  | answer => exact ⟨⟨ht.rest.1, ht.kept⟩, ht.rest.2 _⟩

/-- What a step of a program can be: a request, which changes nothing that lasts, or an answer. -/
theorem Step.cases (h : t.Step w what t' w') :
    (∃ r, what = .asked r ∧ t'.past = t.past ∧ w'.record = w.record) ∨
      ∃ y, what = .answered y ∧ t'.past = y :: t.past ∧
        w.record.Answers y.request y.answer w'.record := by
  cases h with
  | ask => exact .inl ⟨_, rfl, rfl, World.record_begin ..⟩
  | answer polled => exact .inr ⟨_, rfl, rfl, World.answers_of_poll polled⟩

theorem Step.answers {y : Exchange} (h : t.Step w (.answered y) t' w') :
    w.record.Answers y.request y.answer w'.record := by
  rcases h.cases with ⟨_, asked, -⟩ | ⟨_, answered, -, answers⟩
  · cases asked
  · cases answered
    exact answers

theorem Step.allowed {y : Exchange} (h : t.Step w (.answered y) t' w') (ht : t.Keeps c ends start) :
    c.allows (c.standing start t.past) y.request := by
  cases h with
  | answer => exact ht.rest.1

/-- A step of a program takes no time of its own. -/
theorem Step.now_eq (h : t.Step w what t' w') : w'.now = w.now := by
  rcases h.cases with ⟨_, -, -, same⟩ | ⟨_, -, -, answers⟩
  · exact congrArg Record.now same
  · exact answers.now_eq

end Thread

def Intake.standing (i : Intake) : IntakeStanding :=
  i.thread.past.foldr (fun x s => s.after x) .looking

namespace Intake

variable {i i' : Intake}

theorem standing_of_past_eq (past : i'.thread.past = i.thread.past) : i'.standing = i.standing := by
  unfold standing
  rw [past]

theorem standing_of_past_cons {y : Exchange} (past : i'.thread.past = y :: i.thread.past) :
    i'.standing = i.standing.after y := by
  unfold standing
  rw [past]
  rfl

/-- What a step of an intake is, where the gateway keeps its code: a request, with which nothing goes
on yet, or an answer to one that is allowed. -/
inductive Advances (g : Gateway) (i i' : Intake) (m m' : Record) : Happening → Prop
  | asked {r : PipelineRequest} : i'.thread.past = i.thread.past → i'.standing = i.standing →
      m' = m → Advances g i i' m m' (.asked r)
  | answered {r : PipelineRequest} {a : r.Answer} : i.standing.allows g i.event r →
      m.Answers r a m' → i'.thread.past = ⟨r, a⟩ :: i.thread.past →
      i'.standing = i.standing.after ⟨r, a⟩ → Advances g i i' m m' (.answered ⟨r, a⟩)

end Intake

def Intake.isAccepted (i : Intake) : Bool :=
  match i.thread.rest with
  | .done (.accepted ..) => true
  | _ => false

namespace Handling

def inFlight (h : Handling) (b : Broker.Memory) : Bool :=
  (b.held.lookup h.delivery.id).any (!·.settled)

def standing (h : Handling) : HandlingStanding := h.thread.past.foldr (fun x s => s.after x) {}

theorem standing_of_past_eq {h h' : Handling} (past : h'.thread.past = h.thread.past) :
    h'.standing = h.standing := by
  unfold standing
  rw [past]

theorem standing_of_past_cons {h h' : Handling} {y : Exchange}
    (past : h'.thread.past = y :: h.thread.past) : h'.standing = h.standing.after y := by
  unfold standing
  rw [past]
  rfl

/-- The delivery has gone away, or its handling was cut off. -/
def isOver (h : Handling) : Bool := h.standing.gone || !h.thread.alive

/-- A broker holds what is being handled, and nothing of what is over. -/
def Custody (h : Handling) (b : Broker.Memory) : Prop :=
  if h.isOver then b.held.lookup h.delivery.id = none
  else ∃ c, b.held.lookup h.delivery.id = some ⟨h.delivery.message, c, h.standing.isSettled⟩

theorem Custody.held {h : Handling} {b : Broker.Memory} (hc : h.Custody b)
    (open_ : h.standing.gone = false) (alive : h.thread.alive = true) :
    ∃ c, b.held.lookup h.delivery.id = some ⟨h.delivery.message, c, h.standing.isSettled⟩ := by
  unfold Custody at hc
  rwa [if_neg (by simp [isOver, open_, alive])] at hc

/-- What a step of a handling is, where the worker keeps its code: a request, with which nothing goes
on yet, or an answer to one that is allowed. The delivery is held when the answer comes. -/
inductive Advances (x : TaskHandler) (h h' : Handling) (m m' : Record) : Happening → Prop
  | asked {r : PipelineRequest} : h'.thread.past = h.thread.past → h'.standing = h.standing →
      m' = m → Advances x h h' m m' (.asked r)
  | answered {r : PipelineRequest} {a : r.Answer} : h.standing.allows x h.delivery r →
      m.Answers r a m' → h'.thread.past = ⟨r, a⟩ :: h.thread.past →
      h'.standing = h.standing.after ⟨r, a⟩ →
      (∃ c, m.broker.held.lookup h.delivery.id =
        some ⟨h.delivery.message, c, h.standing.isSettled⟩) →
      Advances x h h' m m' (.answered ⟨r, a⟩)

end Handling

namespace Record

variable {m m' : Record}

/-- Nobody's hold on a delivery changes. -/
def SameHolds (m m' : Record) : Prop :=
  m'.broker.held = m.broker.held ∧ m'.broker.nextDelivery = m.broker.nextDelivery

/-- While an event is taken in no hold changes. -/
theorem sameHolds_of_intake {g : Gateway} {event : Event} {s : IntakeStanding}
    {r : PipelineRequest} {a : r.Answer} (hr : s.allows g event r) (ha : m.Answers r a m') :
    m.SameHolds m' := by
  cases r with
  | publish e deadline => rcases ha with ⟨-, rfl⟩ | ⟨-, rfl⟩ <;> exact ⟨rfl, rfl⟩
  | declareTopology deadline => rcases ha with ⟨-, rfl⟩ | ⟨-, rfl⟩ <;> exact ⟨rfl, rfl⟩
  | store call limit => rcases ha with ⟨-, rfl⟩ | ⟨-, rfl⟩ <;> exact ⟨rfl, rfl⟩
  | now => rcases ha with ⟨-, rfl⟩; exact ⟨rfl, rfl⟩
  | wallClock => cases ha; exact ⟨rfl, rfl⟩
  | _ => cases s <;> exact hr.elim

end Record

namespace Handling

variable {x : TaskHandler} {h : Handling} {m m' : Record} {r : PipelineRequest} {a : r.Answer}

/-- A handling that goes on changes no hold but its own, and that as its new standing says. -/
theorem custody_of_answer (h' : Handling) (hr : h.standing.allows x h.delivery r)
    (ha : m.Answers r a m') (next : h'.standing = h.standing.after ⟨r, a⟩)
    (hd : h'.delivery = h.delivery) (alive' : h'.thread.alive = true)
    (hold : ∃ c, m.broker.held.lookup h.delivery.id =
      some ⟨h.delivery.message, c, h.standing.isSettled⟩) :
    h'.Custody m'.broker ∧ m'.broker.nextDelivery = m.broker.nextDelivery ∧
      ∀ j, j ≠ h.delivery.id → m'.broker.held.lookup j = m.broker.held.lookup j := by
  have notGone : h.standing.gone = false := HandlingStanding.gone_of_allows hr
  obtain ⟨c, holds⟩ := hold
  have same (hm : m.SameHolds m') (hs : h'.standing.isSettled = h.standing.isSettled)
      (hg : h'.standing.gone = h.standing.gone) :
      h'.Custody m'.broker ∧ m'.broker.nextDelivery = m.broker.nextDelivery ∧
        ∀ j, j ≠ h.delivery.id → m'.broker.held.lookup j = m.broker.held.lookup j := by
    refine ⟨?_, hm.2, fun j _ => by rw [hm.1]⟩
    have over' : h'.isOver = false := by simp [isOver, hg, notGone, alive']
    simpa [Custody, over', hd, hs, hm.1] using ⟨c, holds⟩
  rw [next] at same
  cases r with
  | settle id how =>
    obtain ⟨rfl, fresh⟩ := HandlingStanding.settlement_of_allows hr
    have unsettled := HandlingStanding.isSettled_of_none fresh
    have over' : h'.isOver = false := by
      simp [isOver, next, HandlingStanding.after, notGone, alive']
    rcases ha with ⟨rfl, rfl⟩ | ⟨⟨e, rfl⟩, rfl⟩
    · obtain ⟨ok, done⟩ := Broker.Memory.settle_of_open how holds unsettled
      refine ⟨?_, done.next, fun j hj => by simpa [hj] using done.held j⟩
      have mine := done.held h.delivery.id
      rw [if_pos rfl] at mine
      simp [Custody, over', hd, mine, next, HandlingStanding.after, HandlingStanding.isSettled, ok,
        Except.isOk, Except.toBool]
    · exact same ⟨rfl, rfl⟩ (by rw [unsettled]; rfl) rfl
  | drop id =>
    obtain ⟨rfl, -, -⟩ := hr
    cases ha
    have over' : h'.isOver = true := by simp [isOver, next, HandlingStanding.after]
    refine ⟨?_, Broker.Memory.drop_nextDelivery .., fun j hj => ?_⟩
    · simp [Custody, over', hd, Broker.Memory.drop_held]
    · simp [Broker.Memory.drop_held, hj]
  | process e limit =>
    cases ha
    cases a <;> exact same ⟨rfl, rfl⟩ rfl rfl
  | reply =>
    rcases ha with ⟨rfl, rfl⟩ | ⟨⟨e, rfl⟩, rfl⟩ <;> exact same ⟨rfl, rfl⟩ rfl rfl
  | publish e deadline =>
    rcases ha with ⟨rfl, rfl⟩ | ⟨failed, rfl⟩
    · exact same ⟨rfl, rfl⟩ rfl rfl
    · rw [HandlingStanding.after_publish_of_ne failed] at same
      exact same ⟨rfl, rfl⟩ rfl rfl
  | store call limit =>
    cases call with
    | set => rcases ha with ⟨-, rfl⟩ | ⟨-, rfl⟩ <;> exact same ⟨rfl, rfl⟩ rfl rfl
    | delete => rcases ha with ⟨-, rfl⟩ | ⟨-, rfl⟩ <;> exact same ⟨rfl, rfl⟩ rfl rfl
    | _ => exact hr.elim
  | pause s => cases ha; exact same ⟨rfl, rfl⟩ rfl rfl
  | tally k => cases ha; exact same ⟨rfl, rfl⟩ rfl rfl
  | _ => exact hr.elim

end Handling

/-- What is so in all traffic that began with nothing under way. -/
structure Traffic.Sound (g : Gateway) (x : TaskHandler) (s : Traffic) : Prop where
  intakes : ∀ i ∈ s.intakes, i.thread.Keeps (g.code i.event) IntakeStanding.answers .looking
  handlings : ∀ h ∈ s.handlings, h.thread.Keeps (x.code h.delivery) HandlingStanding.closes {}
  numbers : (s.handlings.map (·.delivery.id)).Nodup
  below : ∀ h ∈ s.handlings, h.delivery.id < s.world.broker.nextDelivery
  custody : ∀ h ∈ s.handlings, h.Custody s.world.broker

namespace Traffic

variable {g : Gateway} {x : TaskHandler} {permits : Happening → Bool} {start s s' : Traffic}
  {what : Happening}

theorem Sound.of_idle (hi : start.intakes = []) (hh : start.handlings = []) : start.Sound g x := by
  constructor <;> simp [hi, hh]

theorem Sound.intake_advances (hs : s.Sound g x) {i : Intake} {t : Thread GatewayAnswer} {w : World}
    (hi : i ∈ s.intakes) (ht : i.thread.Step s.world what t w) :
    i.Advances g { i with thread := t } s.world.record w.record what := by
  rcases ht.cases with ⟨r, rfl, past, same⟩ | ⟨y, rfl, past, ha⟩
  · exact .asked past (Intake.standing_of_past_eq past) same
  · exact .answered (ht.allowed (hs.intakes i hi)) ha past (Intake.standing_of_past_cons past)

theorem Sound.handling_advances (hs : s.Sound g x) {h : Handling} {t : Thread DeliveryOutcome}
    {w : World} (hh : h ∈ s.handlings) (ht : h.thread.Step s.world what t w) :
    h.Advances x { h with thread := t } s.world.record w.record what := by
  rcases ht.cases with ⟨r, rfl, past, same⟩ | ⟨y, rfl, past, ha⟩
  · exact .asked past (Handling.standing_of_past_eq past) same
  · have hr := ht.allowed (hs.handlings h hh)
    refine .answered hr ha past (Handling.standing_of_past_cons past) ?_
    exact (hs.custody h hh).held (HandlingStanding.gone_of_allows hr) ht.alive.1

/-- What has been accepted is in the queue. -/
theorem Sound.standing_of_isAccepted (hs : s.Sound g x) {i : Intake} (hi : i ∈ s.intakes)
    (accepted : i.isAccepted = true) : i.standing = .enqueued := by
  have rest := (hs.intakes i hi).rest
  unfold Intake.isAccepted at accepted
  split at accepted
  next heq =>
    rw [heq] at rest
    change i.standing.answers _ at rest
    cases how : i.standing with
    | enqueued => rfl
    | _ => rw [how] at rest; exact rest.elim
  · cases accepted

theorem Sound.number_ne (hs : s.Sound g x) {as bs : List Handling} {h h' : Handling}
    (hl : s.handlings = as ++ h :: bs) (hm : h' ∈ as ++ bs) :
    h'.delivery.id ≠ h.delivery.id := by
  have numbers := hs.numbers
  rw [hl, (List.perm_middle.map _).nodup_iff, List.map_cons, List.nodup_cons] at numbers
  intro heq
  refine numbers.1 ?_
  rw [← heq]
  exact List.mem_map_of_mem hm

/-- What one handling does to holds keeps the traffic sound. -/
theorem Sound.of_handling (hs : s.Sound g x) {as bs : List Handling} {h h' : Handling}
    {b : Broker.Memory} (hl : s.handlings = as ++ h :: bs) (hl' : s'.handlings = as ++ h' :: bs)
    (hi : s'.intakes = s.intakes) (hb : s'.world.broker = b) (hd : h'.delivery = h.delivery)
    (keeps : h'.thread.Keeps (x.code h'.delivery) HandlingStanding.closes {})
    (mine : h'.Custody b) (next : b.nextDelivery = s.world.broker.nextDelivery)
    (others : ∀ j, j ≠ h.delivery.id → b.held.lookup j = s.world.broker.held.lookup j) :
    s'.Sound g x := by
  subst hb
  refine ⟨by rw [hi]; exact hs.intakes, ?_, ?_, ?_, fun k hk => ?_⟩
  · rw [hl']
    exact forall_mem_replaced hl hs.handlings keeps
  · have numbers := hs.numbers
    rw [hl, List.map_append, List.map_cons] at numbers
    rw [hl', List.map_append, List.map_cons, hd]
    exact numbers
  · rw [hl', next]
    refine forall_mem_replaced hl hs.below ?_
    rw [hd]
    exact hs.below h (by simp [hl])
  · rw [hl'] at hk
    rcases mem_append_cons.1 hk with rfl | hk
    · exact mine
    · have hold := hs.custody k (by rw [hl]; exact mem_append_cons.2 (.inr hk))
      unfold Handling.Custody at hold ⊢
      rwa [others _ (hs.number_ne hl hk)]

/-- What changes no hold and one intake at most keeps the traffic sound. -/
theorem Sound.of_intakes (hs : s.Sound g x) (hl : s'.handlings = s.handlings)
    (held : s'.world.broker.held = s.world.broker.held)
    (next : s'.world.broker.nextDelivery = s.world.broker.nextDelivery)
    (intakes : ∀ i ∈ s'.intakes, i.thread.Keeps (g.code i.event) IntakeStanding.answers .looking) :
    s'.Sound g x := by
  refine ⟨intakes, ?_, ?_, ?_, ?_⟩
  · rw [hl]; exact hs.handlings
  · rw [hl]; exact hs.numbers
  · rw [hl, next]; exact hs.below
  · rw [hl]
    unfold Handling.Custody
    rw [held]
    exact hs.custody

/-- Time never goes back. -/
theorem Step.now_le (h : Step g x s what s') : s.world.now ≤ s'.world.now := by
  cases h with
  | intake _ ht => exact Nat.le_of_eq ht.now_eq.symm
  | handling _ ht => exact Nat.le_of_eq ht.now_eq.symm
  | drift hd => exact hd.1
  | _ => exact Nat.le_refl _

theorem Reaches.now_le {permits : Happening → Bool} {start : Traffic}
    (run : Reaches g x permits start s) : start.world.now ≤ s.world.now := by
  induction run with
  | refl => exact Nat.le_refl _
  | step _ _ h ih => exact Nat.le_trans ih h.now_le

/-- What is taken is held under a number that no delivery had before. -/
theorem Sound.take (hs : s.Sound g x) {consumer : Option Broker.ConsumerId} {d : Broker.Delivery}
    {b : Broker.Memory} (ht : s.world.broker.take consumer = some (d, b)) :
    (taking x s d b).Sound g x := by
  obtain ⟨rest, -, -, number, next, -, held⟩ := Broker.Memory.take_eq_some ht
  have fresh : ∀ h ∈ s.handlings, h.delivery.id ≠ d.id := by
    intro h hh
    rw [number]
    exact Nat.ne_of_lt (hs.below h hh)
  unfold taking
  refine ⟨hs.intakes, ?_, ?_, ?_, ?_⟩
  · exact List.forall_mem_append.2
      ⟨hs.handlings, List.forall_mem_singleton.2 ⟨trivial, x.binds_serve d⟩⟩
  · rw [List.map_append, List.map_cons, List.map_nil, List.perm_middle.nodup_iff,
      List.append_nil, List.nodup_cons]
    refine ⟨fun hm => ?_, hs.numbers⟩
    obtain ⟨h, hh, heq⟩ := List.mem_map.1 hm
    exact fresh h hh heq
  · change ∀ h : Handling, _ → h.delivery.id < b.nextDelivery
    rw [next]
    refine List.forall_mem_append.2 ⟨fun h hh => Nat.lt_succ_of_lt (hs.below h hh), ?_⟩
    exact List.forall_mem_singleton.2 (number ▸ Nat.lt_succ_self _)
  · refine List.forall_mem_append.2 ⟨fun h hh => ?_, List.forall_mem_singleton.2 ⟨consumer, ?_⟩⟩
    · have hold := hs.custody h hh
      unfold Handling.Custody at hold ⊢
      rw [held, List.lookup_cons, beq_false_of_ne (fresh h hh)]
      exact hold
    · rw [held]
      exact List.lookup_cons_self

theorem Sound.step (hs : s.Sound g x) (h : Step g x s what s') : s'.Sound g x := by
  cases h with
  | arrive event =>
    refine hs.of_intakes rfl rfl rfl (List.forall_mem_append.2 ⟨hs.intakes, ?_⟩)
    exact List.forall_mem_singleton.2 ⟨trivial, g.binds_handle event⟩
  | take ht => exact hs.take ht
  | @intake as bs i t w what hl ht =>
    have hi : i ∈ s.intakes := by simp [hl]
    have holds : s.world.record.SameHolds w.record := by
      cases hs.intake_advances hi ht with
      | asked _ _ same => rw [same]; exact ⟨rfl, rfl⟩
      | answered hr ha => exact Record.sameHolds_of_intake hr ha
    have keeps := ht.keeps (hs.intakes i hi)
    exact hs.of_intakes rfl holds.1 holds.2 (forall_mem_replaced hl hs.intakes keeps)
  | @handling as bs h t w what hl ht =>
    have hh : h ∈ s.handlings := by simp [hl]
    have hc := hs.custody h hh
    have keeps := ht.keeps (hs.handlings h hh)
    obtain ⟨alive, alive'⟩ := ht.alive
    cases hs.handling_advances hh ht with
    | asked _ still same =>
      have brokers : w.broker = s.world.broker := congrArg Record.broker same
      refine hs.of_handling hl rfl rfl rfl rfl keeps ?_ (by rw [brokers]) (by simp [brokers])
      unfold Handling.Custody Handling.isOver at hc ⊢
      rw [alive] at hc
      rw [brokers, still, alive']
      exact hc
    | answered hr ha _ next hold =>
      obtain ⟨mine, number, others⟩ :=
        Handling.custody_of_answer { h with thread := t } hr ha next rfl alive' hold
      exact hs.of_handling hl rfl rfl rfl rfl keeps mine number others
  | @crashIntake as bs i hl =>
    obtain ⟨kept, rest⟩ := hs.intakes i (by simp [hl])
    exact hs.of_intakes rfl rfl rfl (forall_mem_replaced hl hs.intakes ⟨kept, rest⟩)
  | @crashHandling as bs h hl alive =>
    obtain ⟨kept, rest⟩ := hs.handlings h (by simp [hl])
    refine hs.of_handling hl rfl rfl rfl rfl ⟨kept, rest⟩ ?_ (Broker.Memory.drop_nextDelivery ..)
      fun j hj => ?_
    · simp [Handling.Custody, Handling.isOver, Broker.Memory.drop_held]
    · simp [Broker.Memory.drop_held, hj]
  | @drift w hd =>
    have brokers : w.broker = s.world.broker := congrArg Record.broker hd.2
    exact hs.of_intakes rfl (by rw [brokers]) (by rw [brokers]) hs.intakes
  | intrude store => exact hs.of_intakes rfl rfl rfl hs.intakes

theorem Sound.reaches (hs : start.Sound g x) (h : Reaches g x permits start s) :
    s.Sound g x := by
  induction h with
  | refl => exact hs
  | step _ _ hstep ih => exact ih.step hstep

end Traffic
end ReplyPipeline
