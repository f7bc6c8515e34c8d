import ReplyPipeline.Proofs.Custody
import ReplyPipeline.Proofs.MessageBooks

/-!
# Totals

Some parts of a world only add up: the replies in the sink, the counters of the workers, and how
many messages were published, acknowledged and made dead letters. Nothing but the exchanges of
programs changes them, and each exchange adds the same wherever it takes place. So the totals are
what they were at the beginning and the effects of all histories (`Traffic.totals_of_reaches`).
-/
namespace ReplyPipeline

attribute [ext] WorkerCounts

namespace WorkerCounts

instance : Zero WorkerCounts := ⟨{}⟩

instance : Add WorkerCounts :=
  ⟨fun s t => ⟨s.processed + t.processed, s.succeeded + t.succeeded, s.retried + t.retried,
    s.deadLettered + t.deadLettered, s.malformed + t.malformed⟩⟩

variable (s t : WorkerCounts)

@[simp] theorem processed_zero : processed 0 = 0 := rfl
@[simp] theorem succeeded_zero : succeeded 0 = 0 := rfl
@[simp] theorem retried_zero : retried 0 = 0 := rfl
@[simp] theorem deadLettered_zero : deadLettered 0 = 0 := rfl
@[simp] theorem malformed_zero : malformed 0 = 0 := rfl

@[simp] theorem processed_add : (s + t).processed = s.processed + t.processed := rfl
@[simp] theorem succeeded_add : (s + t).succeeded = s.succeeded + t.succeeded := rfl
@[simp] theorem retried_add : (s + t).retried = s.retried + t.retried := rfl
@[simp] theorem deadLettered_add : (s + t).deadLettered = s.deadLettered + t.deadLettered := rfl
@[simp] theorem malformed_add : (s + t).malformed = s.malformed + t.malformed := rfl

instance : AddCommMonoid WorkerCounts where
  add_assoc s t u := by ext <;> simp [Nat.add_assoc]
  zero_add s := by ext <;> simp
  add_zero s := by ext <;> simp
  add_comm s t := by ext <;> simp [Nat.add_comm]
  nsmul := nsmulRec

def one (c : Counter) : WorkerCounts := add 0 c

theorem add_eq (c : Counter) : s.add c = s + one c := by cases c <;> rfl

end WorkerCounts

/-- What adds up. -/
@[ext] structure Totals where
  sent : Multiset PostedReply := 0
  stats : WorkerCounts := 0
  published : Nat := 0
  acked : Nat := 0
  /-- How many dead letters there are. -/
  dead : Nat := 0

namespace Totals

instance : Zero Totals := ⟨{}⟩

instance : Add Totals :=
  ⟨fun s t => ⟨s.sent + t.sent, s.stats + t.stats, s.published + t.published, s.acked + t.acked,
    s.dead + t.dead⟩⟩

variable (s t : Totals)

@[simp] theorem sent_zero : sent 0 = 0 := rfl
@[simp] theorem stats_zero : stats 0 = 0 := rfl
@[simp] theorem published_zero : published 0 = 0 := rfl
@[simp] theorem acked_zero : acked 0 = 0 := rfl
@[simp] theorem dead_zero : dead 0 = 0 := rfl

@[simp] theorem sent_add : (s + t).sent = s.sent + t.sent := rfl
@[simp] theorem stats_add : (s + t).stats = s.stats + t.stats := rfl
@[simp] theorem published_add : (s + t).published = s.published + t.published := rfl
@[simp] theorem acked_add : (s + t).acked = s.acked + t.acked := rfl
@[simp] theorem dead_add : (s + t).dead = s.dead + t.dead := rfl

instance : AddCommMonoid Totals where
  add_assoc s t u := by ext1 <;> simp [add_assoc]
  zero_add s := by ext1 <;> simp
  add_zero s := by ext1 <;> simp
  add_comm s t := by ext1 <;> simp [add_comm]
  nsmul := nsmulRec

theorem sent_sum (l : List Totals) : l.sum.sent = (l.map sent).sum := by
  induction l with
  | nil => rfl
  | cons t l ih => rw [List.sum_cons, List.map_cons, List.sum_cons, sent_add, ih]

end Totals

/-- What an exchange adds. -/
def Exchange.effect : Exchange → Totals
  | ⟨.reply tenant conversation text isPrivate, .ok ()⟩ =>
    { sent := {⟨tenant, conversation, text, isPrivate⟩} }
  | ⟨.tally c, _⟩ => { stats := .one c }
  | ⟨.publish .., some (.ok ())⟩ => { published := 1 }
  | ⟨.settle _ .ack, .ok ()⟩ => { acked := 1 }
  | ⟨.settle _ .reject, .ok ()⟩ => { dead := 1 }
  | _ => 0

theorem Exchange.effect_publish_of_ne {e : Envelope} {deadline : Option Moment}
    {a : Option (Except Broker.Error Unit)} (failed : a ≠ some (.ok ())) :
    effect ⟨.publish e deadline, a⟩ = 0 := by
  cases a with
  | none => rfl
  | some outcome =>
    cases outcome with
    | error _ => rfl
    | ok done => exact absurd rfl failed

namespace History

def effect (past : History) : Totals := (past.map Exchange.effect).sum

@[simp] theorem effect_nil : effect [] = 0 := rfl

@[simp] theorem effect_cons (y : Exchange) (past : History) :
    effect (y :: past) = y.effect + past.effect := List.sum_cons

@[simp] theorem effect_append (newer older : History) :
    effect (newer ++ older) = newer.effect + older.effect := by
  simp [effect]

end History

namespace Broker.Memory

theorem drop_counts (b : Memory) (id : DeliveryId) :
    (b.drop id).published = b.published ∧ (b.drop id).acked = b.acked := by
  cases hl : b.held.lookup id with
  | none => rw [drop_of_none hl]; exact ⟨rfl, rfl⟩
  | some h =>
    cases hs : h.settled with
    | true => rw [drop_of_settled hl hs]; exact ⟨rfl, rfl⟩
    | false =>
      rw [drop_of_open hl hs]
      exact ⟨freeWindow_published .., freeWindow_acked ..⟩

theorem settle_counts (b : Memory) (id : DeliveryId) (how : Settlement) :
    b.settle id how = (.error (.settle "delivery already settled"), b) ∨
      (b.settle id how).1 = .ok () ∧ (b.settle id how).2.published = b.published ∧
        (b.settle id how).2.acked = b.acked + (match how with | .ack => 1 | .reject => 0) ∧
        (b.settle id how).2.deadLetters.length =
          b.deadLetters.length + (match how with | .ack => 0 | .reject => 1) := by
  cases hl : b.held.lookup id with
  | none => exact .inl (settle_of_not_open how (by rw [hl]; rfl))
  | some h =>
    cases hs : h.settled with
    | true => exact .inl (settle_of_not_open how (by rw [hl]; exact hs))
    | false =>
      rw [settle_eq how hl hs]
      refine .inr ⟨rfl, ?_⟩
      cases how <;> simp [markSettled]

end Broker.Memory

/-- What the gateway may ask adds nothing but a publication. -/
theorem IntakeStanding.effect_of_allows {g : Gateway} {event : Event} {s : IntakeStanding}
    {r : PipelineRequest} (h : s.allows g event r) (a : r.Answer) :
    Exchange.effect ⟨r, a⟩ = { published := (Exchange.effect ⟨r, a⟩).published } := by
  cases r with
  | publish e deadline =>
    match a with
    | none => rfl
    | some (.error _) => rfl
    | some (.ok ()) => rfl
  | reply => cases s <;> exact h.elim
  | settle => cases s <;> exact h.elim
  | tally => cases s <;> exact h.elim
  | _ => rfl

theorem History.effect_of_kept {g : Gateway} {event : Event} {past : History}
    (kept : (g.code event).Kept .looking past) :
    past.effect = { published := past.effect.published } := by
  induction past with
  | nil => rfl
  | cons y past ih =>
    obtain ⟨allowed, kept⟩ := kept
    rw [effect_cons, ih kept, IntakeStanding.effect_of_allows allowed y.answer]
    rfl

namespace Record

variable {m m' : Record}

def totals (m : Record) : Totals :=
  ⟨m.sent, m.stats, m.broker.published, m.broker.acked, m.broker.deadLetters.length⟩

theorem totals_of_broker {b : Broker.Memory} (published : b.published = m.broker.published)
    (acked : b.acked = m.broker.acked) (dead : b.deadLetters = m.broker.deadLetters) :
    { m with broker := b }.totals = m.totals := by
  simp only [totals, published, acked, dead]

theorem totals_take {consumer : Option Broker.ConsumerId} {d : Broker.Delivery}
    {b : Broker.Memory} (taken : m.broker.take consumer = some (d, b)) :
    { m with broker := b }.totals = m.totals := by
  obtain ⟨published, acked⟩ := Broker.Memory.take_counts taken
  obtain ⟨_, -, -, -, -, dead, -⟩ := Broker.Memory.take_eq_some taken
  exact totals_of_broker published acked dead

theorem totals_drop (m : Record) (id : Broker.DeliveryId) :
    { m with broker := m.broker.drop id }.totals = m.totals := by
  obtain ⟨published, acked⟩ := Broker.Memory.drop_counts m.broker id
  exact totals_of_broker published acked (Broker.Memory.drop_deadLetters ..)

/-- An exchange decides by itself what it adds to the totals. -/
theorem Answers.totals_eq {r : PipelineRequest} {a : r.Answer} (h : m.Answers r a m') :
    m'.totals = m.totals + Exchange.effect ⟨r, a⟩ := by
  -- Most requests add nothing.
  have nothing {y : Exchange} (none : y.effect = 0) (same : m'.totals = m.totals) :
      m'.totals = m.totals + y.effect := by
    rw [same, none, add_zero]
  cases r with
  | now => exact nothing rfl (congrArg totals h.2)
  | drop id =>
    obtain rfl : m' = _ := h
    exact nothing rfl (totals_drop m id)
  | leave c =>
    obtain rfl : m' = _ := h
    exact nothing rfl rfl
  | store c limit => rcases h with ⟨-, rfl⟩ | ⟨-, rfl⟩ <;> exact nothing rfl rfl
  | declareTopology deadline => rcases h with ⟨-, rfl⟩ | ⟨-, rfl⟩ <;> exact nothing rfl rfl
  | consume => rcases h with ⟨-, rfl⟩ | ⟨-, rfl⟩ <;> exact nothing rfl rfl
  | next c stop limit =>
    rcases h with ⟨d, b, handed, -, rfl⟩ | rfl
    · exact nothing rfl (totals_take (Broker.Memory.take_of_next handed))
    · exact nothing rfl rfl
  | tally c =>
    obtain rfl : m' = _ := h
    ext1 <;> simp [totals, Exchange.effect, WorkerCounts.add_eq]
  | reply tenant conversation text isPrivate =>
    rcases h with ⟨rfl, rfl⟩ | ⟨⟨_, rfl⟩, rfl⟩
    · ext1 <;> simp [totals, Exchange.effect, ← Multiset.coe_add]
    · exact nothing rfl rfl
  | publish e deadline =>
    rcases h with ⟨rfl, rfl⟩ | ⟨failed, rfl⟩
    · ext1 <;> simp [totals, Exchange.effect, Broker.Memory.push]
    · exact nothing (Exchange.effect_publish_of_ne failed) rfl
  | settle id how =>
    rcases h with ⟨rfl, rfl⟩ | ⟨⟨_, rfl⟩, rfl⟩
    · rcases Broker.Memory.settle_counts m.broker id how with
        same | ⟨done, published, acked, dead⟩
      · have kept : (m.broker.settle id how).2 = m.broker := congrArg Prod.snd same
        rw [congrArg Prod.fst same]
        cases how <;> exact nothing rfl (by rw [kept])
      · rw [done]
        cases how <;> ext1 <;> simp [totals, Exchange.effect, published, acked, dead]
    · cases how <;> exact nothing rfl rfl
  | _ =>
    obtain rfl : m' = m := h
    exact nothing rfl rfl

end Record

theorem sum_replaced {α M : Type} [AddCommMonoid M] {f : α → M} {as bs : List α} {a a' : α}
    {more : M} (h : f a' = f a + more) :
    ((as ++ a' :: bs).map f).sum = ((as ++ a :: bs).map f).sum + more := by
  simp only [List.map_append, List.map_cons, List.sum_append, List.sum_cons, h]
  abel

theorem Thread.Step.totals_eq {α : Type} {t t' : Thread α} {w w' : World} {what : Happening}
    (h : t.Step w what t' w') :
    ∃ more, w'.record.totals = w.record.totals + more ∧
      t'.past.effect = t.past.effect + more := by
  rcases h.cases with ⟨_, -, past, same⟩ | ⟨y, -, past, answers⟩
  · exact ⟨0, by rw [same, add_zero], by rw [past, add_zero]⟩
  · refine ⟨_, answers.totals_eq, ?_⟩
    rw [past, History.effect_cons, add_comm]

namespace Traffic

variable {g : Gateway} {x : TaskHandler} {permits : Happening → Bool} {start s s' : Traffic}
  {what : Happening}

/-- What all programs of a traffic have added. -/
def effect (s : Traffic) : Totals :=
  (s.intakes.map fun i => i.thread.past.effect).sum +
    (s.handlings.map fun h => h.thread.past.effect).sum

theorem Step.totals_eq (h : Step g x s what s') :
    ∃ more, s'.world.record.totals = s.world.record.totals + more ∧
      s'.effect = s.effect + more := by
  have still {s' : Traffic} (totals : s'.world.record.totals = s.world.record.totals)
      (effect : s'.effect = s.effect) :
      ∃ more, s'.world.record.totals = s.world.record.totals + more ∧
        s'.effect = s.effect + more :=
    ⟨0, by rw [totals, add_zero], by rw [effect, add_zero]⟩
  cases h with
  | arrive event => exact still rfl (by simp [effect])
  | take taken =>
    exact still (Record.totals_take (m := s.world.record) taken) (by simp [effect])
  | @intake as bs i t w what hl ht =>
    obtain ⟨more, totals, past⟩ := ht.totals_eq
    refine ⟨more, totals, ?_⟩
    simp only [effect, hl]
    rw [sum_replaced (f := fun i : Intake => i.thread.past.effect) past]
    abel
  | @handling as bs h t w what hl ht =>
    obtain ⟨more, totals, past⟩ := ht.totals_eq
    refine ⟨more, totals, ?_⟩
    simp only [effect, hl]
    rw [sum_replaced (f := fun h : Handling => h.thread.past.effect) past]
    abel
  | crashIntake hl => exact still rfl (by simp [effect, hl])
  | crashHandling hl _ =>
    exact still (Record.totals_drop s.world.record _) (by simp [effect, hl])
  | @drift w hd =>
    have same : w.record.totals = _ := congrArg Record.totals hd.2
    exact still same rfl
  | intrude => exact still rfl rfl

/-- The totals are what they were at the beginning and what the programs have added. -/
theorem totals_of_reaches (intakes : start.intakes = []) (handlings : start.handlings = [])
    (run : Reaches g x permits start s) :
    s.world.record.totals = start.world.record.totals + s.effect := by
  induction run with
  | refl => simp [effect, intakes, handlings]
  | step _ _ hs ih =>
    obtain ⟨more, totals, effect⟩ := hs.totals_eq
    rw [totals, effect, ih, add_assoc]

/-- How many publications of the gateway were done. -/
def intakePublications (s : Traffic) : Nat :=
  (s.intakes.map fun i => i.thread.past.effect.published).sum

/-- Apart from the publications of the gateway all that is added is added by calls. -/
theorem effect_eq (intakes : start.intakes = []) (handlings : start.handlings = [])
    (run : Reaches g x permits start s) :
    s.effect = { published := s.intakePublications } +
      (s.handlings.map fun h => h.thread.past.effect).sum := by
  have sound : s.Sound g x := (Sound.of_idle intakes handlings).reaches run
  -- By induction on some of the intakes, since the run is about all of them.
  have published {l : List Intake} (h : ∀ i ∈ l, i ∈ s.intakes) :
      (l.map fun i => i.thread.past.effect).sum =
        { published := (l.map fun i => i.thread.past.effect.published).sum } := by
    induction l with
    | nil => rfl
    | cons i l ih =>
      obtain ⟨first, rest⟩ := List.forall_mem_cons.1 h
      simp only [List.map_cons, List.sum_cons, ih rest]
      rw [History.effect_of_kept (sound.intakes i first).kept]
      rfl
  unfold effect
  rw [published fun _ h => h]
  rfl

end Traffic
end ReplyPipeline
