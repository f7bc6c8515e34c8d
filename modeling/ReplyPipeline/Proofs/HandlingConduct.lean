import ReplyPipeline.Pipeline.Worker
import ReplyPipeline.Proofs.Conduct

/-!
# The conduct of a worker

Of the handling of a delivery it is kept in mind how far the attempt has come, how often a reply
was accepted, whether the task has been published again, how the delivery was settled and whether
that was done, and whether the lock has been asked to be removed. The code says in particular that
a delivery is acknowledged only after a success or after a new publication, that it is rejected
only when neither a reply nor a new publication has gone out, and that it is settled once.
-/
namespace ReplyPipeline

/-- How far an attempt is. -/
inductive AttemptStage where
  /-- The processing function has not answered. -/
  | open
  /-- There is a reply that has to be posted. -/
  | made (text : String)
  | failed
  /-- The reply has been made, and the sink has it if it was to be posted. -/
  | succeeded
  deriving DecidableEq, Repr

/-- What is kept in mind of the handling of a delivery. -/
structure HandlingStanding where
  stage : AttemptStage := .open
  /-- How many replies the sink has accepted. -/
  posted : Nat := 0
  passedOn : Bool := false
  /-- How the delivery was to be settled, and whether it was. -/
  settlement : Option (Broker.Settlement × Bool) := none
  released : Bool := false
  gone : Bool := false
  deriving DecidableEq, Repr

namespace HandlingStanding

def after (s : HandlingStanding) : Exchange → HandlingStanding
  | ⟨.process e _, .reply text⟩ =>
    { s with stage := if e.responseMode.delivery?.isSome then .made text else .succeeded }
  | ⟨.process _ _, _⟩ => { s with stage := .failed }
  | ⟨.reply .., .ok ()⟩ => { s with stage := .succeeded, posted := s.posted + 1 }
  | ⟨.reply .., .error _⟩ => { s with stage := .failed }
  | ⟨.publish .., some (.ok ())⟩ => { s with passedOn := true }
  | ⟨.settle _ how, outcome⟩ => { s with settlement := some (how, Except.isOk outcome) }
  | ⟨.store (.delete _) _, _⟩ => { s with released := true }
  | ⟨.drop _, _⟩ => { s with gone := true }
  | _ => s

theorem after_publish_of_ne {s : HandlingStanding} {e : Envelope} {deadline : Option Moment}
    {a : Option (Except Broker.Error Unit)} (failed : a ≠ some (.ok ())) :
    s.after ⟨.publish e deadline, a⟩ = s := by
  cases a with
  | none => rfl
  | some outcome =>
    cases outcome with
    | error _ => rfl
    | ok done => exact absurd rfl failed

def isSettled (s : HandlingStanding) : Bool := s.settlement.any (·.2)

/-- What a worker may ask while it handles a delivery. -/
def allows (x : TaskHandler) (d : Broker.Delivery) (s : HandlingStanding) : PipelineRequest → Prop
  | .tally _ => s.gone = false
  | .process e limit =>
    Envelope.ofBytes d.message.body = .ok e ∧ limit = x.processingLimit ∧ s = {}
  | .reply tenant conversation text isPrivate =>
    ∃ e, Envelope.ofBytes d.message.body = .ok e ∧ e.responseMode.delivery? = some isPrivate ∧
      tenant = e.tenant ∧ conversation = e.conversation ∧ s = { stage := .made text }
  | .store (.set key value ttl) _ =>
    ∃ e, Envelope.ofBytes d.message.body = .ok e ∧ key = x.idempotency.markerKey e.correlationId ∧
      value = e.responseMode.resultTag ∧ ttl = x.idempotency.markerTtl ∧
      s = { stage := .succeeded, posted := s.posted }
  | .pause _ => s = { stage := .failed }
  | .publish e _ =>
    s = { stage := .failed } ∧
      ∃ task, Envelope.ofBytes d.message.body = .ok task ∧ e = task.recordFailure
  | .settle id .ack =>
    id = d.id ∧ (s = { stage := .succeeded, posted := s.posted } ∨
      s = { stage := .failed, passedOn := true })
  | .settle id .reject =>
    id = d.id ∧ (s = { stage := .failed } ∨
      s = {} ∧ ∃ f, Envelope.ofBytes d.message.body = .error f)
  | .store (.delete key) _ =>
    ∃ done id, key = x.idempotency.lockKey id ∧ s.settlement = some (.reject, done) ∧
      s.released = false ∧ s.gone = false ∧
      ((∃ e, Envelope.ofBytes d.message.body = .ok e ∧ id = e.correlationId) ∨
        d.message.correlationId.map CorrelationId.ofText = some (.ok id))
  | .drop id => id = d.id ∧ s.settlement.isSome ∧ s.gone = false
  | _ => False

theorem gone_of_allows {x : TaskHandler} {d : Broker.Delivery} {s : HandlingStanding}
    {r : PipelineRequest} (hr : s.allows x d r) : s.gone = false := by
  cases r with
  | tally c => exact hr
  | process e limit => obtain ⟨-, -, rfl⟩ := hr; rfl
  | reply => obtain ⟨_, -, -, -, -, rfl⟩ := hr; rfl
  | pause t => cases hr; rfl
  | publish e deadline => obtain ⟨rfl, -⟩ := hr; rfl
  | drop id => exact hr.2.2
  | settle id how =>
    cases how with
    | ack => obtain ⟨-, h | h⟩ := hr <;> rw [h]
    | reject => obtain ⟨-, h | ⟨h, -⟩⟩ := hr <;> rw [h]
  | store call limit =>
    cases call with
    | set => obtain ⟨_, -, -, -, -, h⟩ := hr; rw [h]
    | delete => obtain ⟨_, _, -, -, -, h, -⟩ := hr; exact h
    | _ => exact hr.elim
  | _ => exact hr.elim

/-- A worker settles only the delivery that it handles, and only once. -/
theorem settlement_of_allows {x : TaskHandler} {d : Broker.Delivery} {s : HandlingStanding}
    {id : Broker.DeliveryId} {how : Broker.Settlement} (hr : s.allows x d (.settle id how)) :
    id = d.id ∧ s.settlement = none := by
  cases how with
  | ack => obtain ⟨own, h | h⟩ := hr <;> exact ⟨own, by rw [h]⟩
  | reject => obtain ⟨own, h | ⟨h, -⟩⟩ := hr <;> exact ⟨own, by rw [h]⟩

/-- A worker rejects a delivery only with nothing to show for it. -/
theorem stage_of_reject {x : TaskHandler} {d : Broker.Delivery} {s : HandlingStanding}
    {id : Broker.DeliveryId} (hr : s.allows x d (.settle id .reject)) : ∃ stage, s = { stage } := by
  obtain ⟨-, h | ⟨h, -⟩⟩ := hr <;> exact ⟨_, h⟩

theorem isSettled_of_tried {s : HandlingStanding} (tried : s.settlement.isSome = true)
    (done : s.settlement.all (·.2) = true) : s.isSettled = true := by
  obtain ⟨p, hp⟩ := Option.isSome_iff_exists.1 tried
  rw [hp] at done
  rw [isSettled, hp]
  exact done

theorem isSettled_of_none {s : HandlingStanding} (fresh : s.settlement = none) :
    s.isSettled = false := by
  rw [isSettled, fresh]
  rfl

/-- How a worker leaves a delivery that it has handled, by the outcome. -/
def fits (s : HandlingStanding) : DeliveryOutcome → Prop
  | .completed =>
    ∃ done, s.settlement = some (.ack, done) ∧ s.stage = .succeeded ∧ s.passedOn = false ∧
      s.gone = false
  | .retried _ =>
    ∃ done, s.settlement = some (.ack, done) ∧ s.stage = .failed ∧ s.passedOn = true ∧
      s.gone = false
  | .deadLettered _ =>
    ∃ done, s.settlement = some (.reject, done) ∧ s.stage = .failed ∧ s.passedOn = false ∧
      s.released = true ∧ s.gone = false
  | .malformed =>
    ∃ done, s.settlement = some (.reject, done) ∧ s.stage = .open ∧ s.passedOn = false ∧
      s.gone = false

/-- How a worker ends, when the delivery has gone away. -/
def closes (s : HandlingStanding) (outcome : DeliveryOutcome) : Prop :=
  ∃ s₀ : HandlingStanding, s₀.fits outcome ∧ s = { s₀ with gone := true }

theorem fits.settlement_isSome {s : HandlingStanding} {o : DeliveryOutcome} (h : s.fits o) :
    s.settlement.isSome = true ∧ s.gone = false := by
  cases o <;> obtain ⟨done, hs, h⟩ := h <;> simp [hs, h]

end HandlingStanding

namespace TaskHandler

def code (x : TaskHandler) (d : Broker.Delivery) : Code HandlingStanding :=
  ⟨HandlingStanding.after, HandlingStanding.allows x d⟩

/-- Handles a delivery, which goes away afterwards. -/
def serve (x : TaskHandler) (d : Broker.Delivery) : Action DeliveryOutcome := do
  let outcome ← x.handle d
  Action.drop d.id
  return outcome

variable (x : TaskHandler) (d : Broker.Delivery) {e : Envelope}

theorem binds_complete (he : Envelope.ofBytes d.message.body = .ok e) (n : Nat) :
    (x.code d).Binds HandlingStanding.fits { stage := .succeeded, posted := n }
      (x.complete d e) := by
  refine ⟨⟨e, he, rfl, rfl, rfl, rfl⟩, fun marked => ⟨⟨rfl, .inl rfl⟩, fun acked => ?_⟩⟩
  exact ⟨rfl, fun _ => ⟨_, rfl, rfl, rfl, rfl⟩⟩

theorem binds_giveUp (he : Envelope.ofBytes d.message.body = .ok e) (attempts : UInt32) :
    (x.code d).Binds HandlingStanding.fits { stage := .failed }
      (x.giveUp d e.correlationId attempts) := by
  refine ⟨⟨rfl, .inl rfl⟩, fun rejected => ?_⟩
  refine ⟨⟨_, _, rfl, rfl, rfl, rfl, .inl ⟨e, he, rfl⟩⟩, fun deleted => ?_⟩
  exact ⟨rfl, fun _ => ⟨_, rfl, rfl, rfl, rfl, rfl⟩⟩

theorem binds_fail (he : Envelope.ofBytes d.message.body = .ok e) :
    (x.code d).Binds HandlingStanding.fits { stage := .failed } (x.fail d e) := by
  unfold fail
  match x.retry.decide (Envelope.saturatingSucc e.attempts) with
  | .giveUp attempts => exact x.binds_giveUp d he attempts
  | .retry attempt delay =>
    refine ⟨rfl, fun _ => ⟨⟨rfl, e, he, rfl⟩, fun published => ?_⟩⟩
    match published with
    | none => exact x.binds_giveUp d he attempt
    | some (.error _) => exact x.binds_giveUp d he attempt
    | some (.ok ()) =>
      refine ⟨⟨rfl, .inr rfl⟩, fun acked => ?_⟩
      exact ⟨rfl, fun _ => ⟨_, rfl, rfl, rfl, rfl⟩⟩

theorem binds_discard {f : EnvelopeError} (hf : Envelope.ofBytes d.message.body = .error f) :
    (x.code d).Binds HandlingStanding.fits {} (x.discard d) := by
  unfold discard
  refine ⟨⟨rfl, .inr ⟨rfl, f, hf⟩⟩, fun rejected => ?_⟩
  match hid : d.message.correlationId.map CorrelationId.ofText with
  | none => exact ⟨rfl, fun _ => ⟨_, rfl, rfl, rfl, rfl⟩⟩
  | some (.error _) => exact ⟨rfl, fun _ => ⟨_, rfl, rfl, rfl, rfl⟩⟩
  | some (.ok id) =>
    refine ⟨⟨_, id, rfl, rfl, rfl, rfl, .inr hid⟩, fun deleted => ?_⟩
    exact ⟨rfl, fun _ => ⟨_, rfl, rfl, rfl, rfl⟩⟩

theorem binds_attempt (he : Envelope.ofBytes d.message.body = .ok e) :
    (x.code d).Binds
      (fun s result => match result with
        | .ok () => s = { stage := .succeeded, posted := s.posted }
        | .error _ => s = { stage := .failed })
      {} (x.attempt e) := by
  refine ⟨⟨he, rfl, rfl⟩, fun outcome => ?_⟩
  match outcome with
  | .failed _ => exact rfl
  | .panicked _ => exact rfl
  | .tooLate => exact rfl
  | .reply text =>
    have made : (x.code d).after {} ⟨.process e x.processingLimit, .reply text⟩ =
        { stage := if e.responseMode.delivery?.isSome then .made text else .succeeded } := rfl
    rw [made]
    change (x.code d).Binds _ _ (post e text)
    unfold post
    match hm : e.responseMode.delivery? with
    | none => exact rfl
    | some isPrivate =>
      refine ⟨⟨e, he, hm, rfl, rfl, rfl⟩, fun accepted => ?_⟩
      match accepted with
      | .ok () => exact rfl
      | .error _ => exact rfl

/-- A worker keeps its code and leaves the delivery as the outcome says. -/
theorem binds_handle : (x.code d).Binds HandlingStanding.fits {} (x.handle d) := by
  unfold handle
  refine ⟨rfl, fun _ => ?_⟩
  match he : Envelope.ofBytes d.message.body with
  | .error f => exact x.binds_discard d he
  | .ok e =>
    refine (Code.binds_bind (x.attempt e) _ _).2 ((x.binds_attempt d he).mono ?_)
    intro s result hs
    match result with
    | .ok () => rw [hs]; exact x.binds_complete d he s.posted
    | .error _ => rw [hs]; exact x.binds_fail d he

theorem binds_serve : (x.code d).Binds HandlingStanding.closes {} (x.serve d) := by
  refine (Code.binds_bind (x.handle d) _ _).2 ((x.binds_handle d).mono ?_)
  intro s outcome hs
  exact ⟨⟨rfl, hs.settlement_isSome⟩, fun _ => ⟨s, hs, rfl⟩⟩

end TaskHandler
end ReplyPipeline
