import ReplyPipeline.Proofs.ConsumeLoop
import ReplyPipeline.Proofs.HandlingAccounts
import ReplyPipeline.Proofs.IntakeAccounts
import ReplyPipeline.Proofs.Totals

/-!
# Records of calls

All that a call asks and is answered until it has handled its delivery, the latest first. A call
makes an attempt, whose record is one of four, and ends in one of four ways; of octets that are no
envelope it makes no attempt. Whatever the surroundings do, what a call has done is one of these
records (`TaskHandler.callRecord_of_goes`).
-/
namespace ReplyPipeline

namespace Code

/-- The code that allows everything and keeps all in mind. -/
def recorded : Code History := ⟨fun past y => y :: past, fun _ _ => True⟩

@[simp] theorem standing_recorded (start past : History) :
    recorded.standing start past = past ++ start := by
  induction past with
  | nil => rfl
  | cons y past ih => exact congrArg (y :: ·) ih

end Code

namespace Program

variable {α β : Type} {P : History → α → Prop} {Q : History → β → Prop} {p : Action α}
  {f : α → Action β}

/-- However a program is answered, what it adds to a history is so by the time that it is done. -/
def Adds (p : Action α) (P : History → α → Prop) : Prop :=
  ∀ past, Code.recorded.Binds (fun all a => ∃ ys, all = ys ++ past ∧ P ys a) past p

theorem Adds.bind (first : p.Adds P)
    (second : ∀ ys a, P ys a → (f a).Adds fun zs b => Q (zs ++ ys) b) : (p.bind f).Adds Q := by
  intro past
  refine (Code.binds_bind p f past).2 ((first past).mono ?_)
  rintro _ a ⟨ys, rfl, hy⟩
  refine (second ys a hy (ys ++ past)).mono ?_
  rintro _ b ⟨zs, rfl, hz⟩
  exact ⟨zs ++ ys, (List.append_assoc ..).symm, hz⟩

theorem Adds.call {r : PipelineRequest} {next : r.Answer → Action α}
    (h : ∀ a, (next a).Adds fun ys b => P (ys ++ [⟨r, a⟩]) b) :
    (Program.call (S := pipeline) r next).Adds P := by
  refine fun past => ⟨trivial, fun a => (h a (⟨r, a⟩ :: past)).mono ?_⟩
  rintro _ b ⟨ys, rfl, hy⟩
  exact ⟨ys ++ [⟨r, a⟩], by rw [List.append_assoc]; rfl, hy⟩

theorem Adds.mono {P' : History → α → Prop} (h : p.Adds P) (weaker : ∀ ys a, P ys a → P' ys a) :
    p.Adds P' := by
  intro past
  refine (h past).mono ?_
  rintro _ a ⟨ys, rfl, hy⟩
  exact ⟨ys, rfl, weaker ys a hy⟩

theorem Adds.of_goes {past : History} {a : α} (h : p.Adds P) (goes : p.Goes past (.done a)) :
    P past a := by
  obtain ⟨-, ys, all, hy⟩ := goes.binds (h [])
  rw [Code.standing_recorded, List.append_nil, List.append_nil] at all
  rwa [all]

end Program

def DeliveryOutcome.counter : DeliveryOutcome → Counter
  | .completed => .succeeded
  | .retried _ => .retried
  | .deadLettered _ => .deadLettered
  | .malformed => .malformed

namespace Idempotency

def markRequest (s : Idempotency) (e : Envelope) : PipelineRequest :=
  .store (.set (s.markerKey e.correlationId) e.responseMode.resultTag s.markerTtl) (some s.limit)

end Idempotency

namespace TaskHandler

/-- The record of an attempt at a task, and the reply if it succeeds. -/
inductive AttemptRecord (x : TaskHandler) (e : Envelope) : History → Option String → Prop
  /-- No reply was made. -/
  | unmade {outcome : ProcessingOutcome} : (∀ text, outcome ≠ .reply text) →
      AttemptRecord x e [⟨.process e x.processingLimit, outcome⟩] none
  /-- A reply was made that is not to be posted. -/
  | kept {text : String} : e.responseMode.delivery? = none →
      AttemptRecord x e [⟨.process e x.processingLimit, ProcessingOutcome.reply text⟩] (some text)
  | posted {text : String} {isPrivate : Bool} : e.responseMode.delivery? = some isPrivate →
      AttemptRecord x e
        [⟨.reply e.tenant e.conversation text isPrivate, Except.ok ()⟩,
          ⟨.process e x.processingLimit, ProcessingOutcome.reply text⟩] (some text)
  /-- A reply was made, and the sink did not take it. -/
  | refused {text : String} {isPrivate : Bool} {cause : ReplyError} :
      e.responseMode.delivery? = some isPrivate →
      AttemptRecord x e
        [⟨.reply e.tenant e.conversation text isPrivate, Except.error cause⟩,
          ⟨.process e x.processingLimit, ProcessingOutcome.reply text⟩] none

/-- The record of what follows an attempt. -/
inductive EndRecord (x : TaskHandler) (d : Broker.Delivery) (e : Envelope) :
    Option String → History → DeliveryOutcome → Prop
  | completed {text : String} {marked : Except Store.Error Unit}
      {acked : Except Broker.Error Unit} :
      EndRecord x d e (some text)
        [⟨.tally .succeeded, ()⟩, ⟨.settle d.id .ack, acked⟩,
          ⟨x.idempotency.markRequest e, marked⟩] .completed
  | retried {acked : Except Broker.Error Unit} :
      x.retry.shouldRetry e.recordFailure.attempts = true →
      EndRecord x d e none
        [⟨.tally .retried, ()⟩, ⟨.settle d.id .ack, acked⟩,
          ⟨.publish e.recordFailure none, some (Except.ok ())⟩,
          ⟨.pause (x.retry.backoff e.recordFailure.attempts), ()⟩]
        (.retried e.recordFailure.attempts)
  /-- There is another attempt, but the task was not published for it. -/
  | refused {published : Option (Except Broker.Error Unit)} {rejected : Except Broker.Error Unit}
      {released : Except Store.Error Unit} :
      x.retry.shouldRetry e.recordFailure.attempts = true → published ≠ some (.ok ()) →
      EndRecord x d e none
        [⟨.tally .deadLettered, ()⟩, ⟨x.idempotency.releaseRequest e.correlationId, released⟩,
          ⟨.settle d.id .reject, rejected⟩, ⟨.publish e.recordFailure none, published⟩,
          ⟨.pause (x.retry.backoff e.recordFailure.attempts), ()⟩]
        (.deadLettered e.recordFailure.attempts)
  /-- There is no other attempt. -/
  | exhausted {rejected : Except Broker.Error Unit} {released : Except Store.Error Unit} :
      x.retry.shouldRetry e.recordFailure.attempts = false →
      EndRecord x d e none
        [⟨.tally .deadLettered, ()⟩, ⟨x.idempotency.releaseRequest e.correlationId, released⟩,
          ⟨.settle d.id .reject, rejected⟩]
        (.deadLettered e.recordFailure.attempts)

/-- The record of what is done with octets that are no envelope. -/
inductive DiscardRecord (x : TaskHandler) (d : Broker.Delivery) : History → Prop
  | unnamed {rejected : Except Broker.Error Unit} :
      DiscardRecord x d [⟨.tally .malformed, ()⟩, ⟨.settle d.id .reject, rejected⟩]
  | named {id : CorrelationId} {rejected : Except Broker.Error Unit}
      {released : Except Store.Error Unit} :
      DiscardRecord x d
        [⟨.tally .malformed, ()⟩, ⟨x.idempotency.releaseRequest id, released⟩,
          ⟨.settle d.id .reject, rejected⟩]

/-- The record of a call. -/
inductive CallRecord (x : TaskHandler) (d : Broker.Delivery) : History → DeliveryOutcome → Prop
  | attempted {e : Envelope} {tried ending : History} {reply : Option String}
      {outcome : DeliveryOutcome} :
      Envelope.ofBytes d.message.body = .ok e → x.AttemptRecord e tried reply →
      x.EndRecord d e reply ending outcome →
      CallRecord x d (ending ++ (tried ++ [⟨.tally .processed, ()⟩])) outcome
  | malformed {fault : EnvelopeError} {discarded : History} :
      Envelope.ofBytes d.message.body = .error fault → x.DiscardRecord d discarded →
      CallRecord x d (discarded ++ [⟨.tally .processed, ()⟩]) .malformed

variable (x : TaskHandler) (d : Broker.Delivery) {e : Envelope}

theorem adds_attempt (e : Envelope) :
    (x.attempt e).Adds fun tried result =>
      ∃ reply, x.AttemptRecord e tried reply ∧ reply.isSome = Except.isOk result := by
  refine fun past => ⟨trivial, fun outcome => ?_⟩
  match outcome with
  | .failed _ => exact ⟨[_], rfl, none, .unmade nofun, rfl⟩
  | .panicked _ => exact ⟨[_], rfl, none, .unmade nofun, rfl⟩
  | .tooLate => exact ⟨[_], rfl, none, .unmade nofun, rfl⟩
  | .reply text =>
    change Code.recorded.Binds _ _ (post e text)
    unfold post
    match mode : e.responseMode.delivery? with
    | none => exact ⟨[_], rfl, some text, .kept mode, rfl⟩
    | some isPrivate =>
      refine ⟨trivial, fun accepted => ?_⟩
      match accepted with
      | .ok () => exact ⟨[_, _], rfl, some text, .posted mode, rfl⟩
      | .error _ => exact ⟨[_, _], rfl, none, .refused mode, rfl⟩

theorem adds_complete (text : String) :
    (x.complete d e).Adds (x.EndRecord d e (some text)) :=
  fun _ => ⟨trivial, fun _ => ⟨trivial, fun _ => ⟨trivial, fun _ => ⟨[_, _, _], rfl, .completed⟩⟩⟩⟩

theorem adds_giveUp (id : CorrelationId) (attempts : UInt32) :
    (x.giveUp d id attempts).Adds fun ending outcome =>
      (∃ rejected released, ending =
        [⟨.tally .deadLettered, ()⟩, ⟨x.idempotency.releaseRequest id, released⟩,
          ⟨.settle d.id .reject, rejected⟩]) ∧ outcome = .deadLettered attempts :=
  fun _ => ⟨trivial, fun _ => ⟨trivial, fun _ => ⟨trivial, fun _ =>
    ⟨[_, _, _], rfl, ⟨_, _, rfl⟩, rfl⟩⟩⟩⟩

theorem adds_fail : (x.fail d e).Adds (x.EndRecord d e none) := by
  unfold fail RetryPolicy.decide
  cases granted : x.retry.shouldRetry (Envelope.saturatingSucc e.attempts) with
  | false =>
    refine (x.adds_giveUp d _ _).mono ?_
    rintro _ _ ⟨⟨rejected, released, rfl⟩, rfl⟩
    exact .exhausted granted
  | true =>
    refine .call fun _ => .call fun published => ?_
    have given_up {published : Option (Except Broker.Error Unit)}
        (failed : published ≠ some (.ok ())) :
        (x.giveUp d e.correlationId e.recordFailure.attempts).Adds fun ys outcome =>
          x.EndRecord d e none (ys ++ [⟨.publish e.recordFailure none, published⟩] ++
            [⟨.pause (x.retry.backoff e.recordFailure.attempts), ()⟩]) outcome := by
      refine (x.adds_giveUp d _ _).mono ?_
      rintro _ _ ⟨⟨rejected, released, rfl⟩, rfl⟩
      exact .refused granted failed
    match published with
    | none => exact given_up nofun
    | some (.error _) => exact given_up nofun
    | some (.ok ()) =>
      exact fun _ => ⟨trivial, fun _ => ⟨trivial, fun _ => ⟨[_, _], rfl, .retried granted⟩⟩⟩

theorem adds_discard :
    (x.discard d).Adds fun discarded outcome =>
      x.DiscardRecord d discarded ∧ outcome = .malformed := by
  refine fun past => ⟨trivial, fun rejected => ?_⟩
  match d.message.correlationId.map CorrelationId.ofText with
  | none => exact ⟨trivial, fun _ => ⟨[_, _], rfl, .unnamed, rfl⟩⟩
  | some (.error _) => exact ⟨trivial, fun _ => ⟨[_, _], rfl, .unnamed, rfl⟩⟩
  | some (.ok id) =>
    exact ⟨trivial, fun _ => ⟨trivial, fun _ => ⟨[_, _, _], rfl, .named, rfl⟩⟩⟩

theorem adds_handle : (x.handle d).Adds (x.CallRecord d) := by
  refine .call fun _ => ?_
  match decoded : Envelope.ofBytes d.message.body with
  | .error fault =>
    refine (x.adds_discard d).mono ?_
    rintro discarded outcome ⟨record, rfl⟩
    exact .malformed decoded record
  | .ok e =>
    refine (x.adds_attempt e).bind fun tried result ⟨reply, record, ends⟩ => ?_
    match result, reply with
    | .ok (), some text =>
      refine (x.adds_complete d text).mono fun ending outcome closed => ?_
      rw [List.append_assoc]
      exact .attempted decoded record closed
    | .error _, none =>
      refine (x.adds_fail d).mono fun ending outcome closed => ?_
      rw [List.append_assoc]
      exact .attempted decoded record closed

theorem adds_serve :
    (x.serve d).Adds fun all outcome =>
      ∃ past, all = ⟨.drop d.id, ()⟩ :: past ∧ x.CallRecord d past outcome :=
  (x.adds_handle d).bind fun past _ record _ => ⟨trivial, fun _ => ⟨[_], rfl, past, rfl, record⟩⟩

variable {x d} {past tried ending : History} {reply : Option String} {outcome : DeliveryOutcome}

/-- What a call has done when it has handled its delivery. -/
theorem callRecord_of_goes (goes : (x.handle d).Goes past (.done outcome)) :
    x.CallRecord d past outcome :=
  (x.adds_handle d).of_goes goes

end TaskHandler

theorem Traffic.callRecord_of_reaches {g : Gateway} {x : TaskHandler} {permits : Happening → Bool}
    {start s : Traffic} (none : start.handlings = []) (run : Reaches g x permits start s)
    {h : Handling} (hh : h ∈ s.handlings) {outcome : DeliveryOutcome}
    (ended : h.thread.rest = .done outcome) :
    ∃ past, h.thread.past = ⟨.drop h.delivery.id, ()⟩ :: past ∧
      x.CallRecord h.delivery past outcome := by
  have rest := (keeps_of_reaches (fun d => x.adds_serve d []) none run h hh).rest
  rw [ended] at rest
  obtain ⟨all, same, past, rfl, record⟩ := rest
  rw [Code.standing_recorded, List.append_nil, List.append_nil] at same
  exact ⟨past, same, record⟩

/-! ## What calls add to the totals -/

/-- How a task is concluded in a mode: whether its reply is posted, and then whether as a private
note; and what its marker says. -/
def ResponseMode.conclusion : ResponseMode → Option Bool × String
  | .autoRespond => (some false, "replied")
  | .assistAgent => (some true, "private_note")
  | .manualTrigger => (none, "generated")
  | .unknown => (none, "generated")

theorem ResponseMode.conclusion_eq (m : ResponseMode) :
    m.conclusion = (m.delivery?, m.resultTag) := by
  cases m <;> rfl

/-- What is posted of a task with a reply, or without one. -/
def Envelope.posts (e : Envelope) : Option String → Multiset PostedReply
  | some text =>
    match e.responseMode.conclusion.1 with
    | some isPrivate => {⟨e.tenant, e.conversation, text, isPrivate⟩}
    | none => 0
  | none => 0

/-- What the end of a call adds by its outcome, if its delivery is settled or is not. -/
def Totals.ofEnd (outcome : DeliveryOutcome) (settled : Bool) : Totals :=
  let stats := WorkerCounts.one outcome.counter
  { stats
    published := stats.retried
    acked := if settled then stats.succeeded + stats.retried else 0
    dead := if settled then stats.deadLettered + stats.malformed else 0 }

namespace TaskHandler

variable {x : TaskHandler} {d : Broker.Delivery} {e : Envelope} {past tried ending : History}
  {reply : Option String} {outcome : DeliveryOutcome}

theorem AttemptRecord.effect_eq (h : x.AttemptRecord e tried reply) :
    tried.effect = { sent := e.posts reply } := by
  cases h with
  | unmade _ => rfl
  | kept mode => simp only [Envelope.posts, ResponseMode.conclusion_eq, mode]; rfl
  | posted mode => simp only [Envelope.posts, ResponseMode.conclusion_eq, mode]; rfl
  | refused _ => rfl

theorem AttemptRecord.effect_begun (h : x.AttemptRecord e tried reply) :
    History.effect (tried ++ [⟨.tally .processed, ()⟩]) =
      { sent := e.posts reply, stats := .one .processed } := by
  rw [History.effect_append, h.effect_eq]
  ext1 <;> simp [Exchange.effect]

theorem effect_of_settlement (d : Broker.Delivery) (how : Broker.Settlement)
    (answer : Except Broker.Error Unit)
    (asked : (⟨.settle d.id how, answer⟩ : Exchange) ∈ ending)
    (effect : ending.effect = .ofEnd outcome (Except.isOk answer)) :
    ∃ settled, ending.effect = .ofEnd outcome settled ∧
      ((∀ y ∈ ending, y.settles = true) → settled = true) :=
  ⟨_, effect, fun works => works _ asked⟩

theorem EndRecord.effect_eq (h : x.EndRecord d e reply ending outcome) :
    ∃ settled, ending.effect = .ofEnd outcome settled ∧
      ((∀ y ∈ ending, y.settles = true) → settled = true) := by
  cases h with
  | @completed text marked acked =>
    exact effect_of_settlement d .ack acked (by simp) (by cases acked <;> rfl)
  | @retried acked granted =>
    exact effect_of_settlement d .ack acked (by simp) (by cases acked <;> rfl)
  | @refused published rejected released granted failed =>
    refine effect_of_settlement d .reject rejected (by simp) ?_
    simp only [History.effect_cons, Exchange.effect_publish_of_ne failed]
    cases rejected <;> rfl
  | @exhausted rejected released spent =>
    exact effect_of_settlement d .reject rejected (by simp) (by cases rejected <;> rfl)

theorem DiscardRecord.effect_eq (h : x.DiscardRecord d ending) :
    ∃ settled, ending.effect = .ofEnd .malformed settled ∧
      ((∀ y ∈ ending, y.settles = true) → settled = true) := by
  cases h with
  | @unnamed rejected =>
    exact effect_of_settlement d .reject rejected (by simp) (by cases rejected <;> rfl)
  | @named id rejected released =>
    exact effect_of_settlement d .reject rejected (by simp) (by cases rejected <;> rfl)

end TaskHandler
end ReplyPipeline
