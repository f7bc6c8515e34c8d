import ReplyPipeline.Pipeline.Gateway
import ReplyPipeline.Proofs.Conduct

/-!
# The conduct of the gateway

While the gateway takes an event in it looks for the marker, takes the lock, and with the lock in
hand either gets the task into the queue or gives the lock back; it publishes once at most. A lock
attempt that the store did not answer counts as a lock in hand here, as it does for the gateway.
-/
namespace ReplyPipeline

/-- How far the gateway is with an event. -/
inductive IntakeStanding where
  /-- It has no lock. -/
  | looking
  /-- It has the lock, and the task is not in the queue. -/
  | holding
  | enqueued
  /-- It has given the lock back. -/
  | released
  deriving DecidableEq, Repr

namespace IntakeStanding

def after : IntakeStanding → Exchange → IntakeStanding
  | .looking, ⟨.store (.setIfAbsent ..) _, a⟩ =>
    if (LockAttempt.ofAnswer a).mayProceed then .holding else .looking
  | .holding, ⟨.publish .., some (.ok ())⟩ => .enqueued
  | .holding, ⟨.store (.delete _) _, _⟩ => .released
  | s, _ => s

theorem after_publish_of_ne {s : IntakeStanding} {e : Envelope} {deadline : Option Moment}
    {a : Option (Except Broker.Error Unit)} (failed : a ≠ some (.ok ())) :
    s.after ⟨.publish e deadline, a⟩ = s := by
  cases a with
  | none => cases s <;> rfl
  | some outcome =>
    cases outcome with
    | error _ => cases s <;> rfl
    | ok done => exact absurd rfl failed

/-- What the gateway may ask while it takes an event in. -/
def allows (g : Gateway) (event : Event) : IntakeStanding → PipelineRequest → Prop
  | .looking, .store (.contains key) _ =>
    ∃ id, event.correlationId? = some id ∧ key = g.idempotency.markerKey id
  | .looking, .store (.setIfAbsent key _ ttl) _ =>
    ∃ id, event.correlationId? = some id ∧ key = g.idempotency.lockKey id ∧
      ttl = g.idempotency.lockTtl
  | .holding, .now => True
  | .holding, .wallClock => True
  | .holding, .declareTopology _ => True
  | .holding, .publish e _ =>
    ∃ id instant, event.correlationId? = some id ∧ e = .ofEvent event id instant
  | .holding, .store (.delete key) _ =>
    ∃ id, event.correlationId? = some id ∧ key = g.idempotency.lockKey id
  | _, _ => False

/-- The standings in which the gateway may give an answer. -/
def answers : IntakeStanding → GatewayAnswer → Prop
  | .looking, .ignored _ => True
  | .looking, .duplicate _ => True
  | .looking, .inProgress _ => True
  | .enqueued, .accepted .. => True
  | .released, .failed _ => True
  | _, _ => False

end IntakeStanding

namespace Gateway

def code (g : Gateway) (event : Event) : Code IntakeStanding :=
  ⟨IntakeStanding.after, IntakeStanding.allows g event⟩

variable (g : Gateway) {event : Event} {id : CorrelationId}

theorem binds_enqueue (h : event.correlationId? = some id) (instant : Instant) :
    (g.code event).Binds
      (fun s outcome => s = match outcome with | .ok () => .enqueued | .error _ => .holding)
      .holding (g.enqueue (.ofEvent event id instant)) := by
  refine ⟨trivial, fun now => ⟨trivial, fun declared => ?_⟩⟩
  match declared with
  | none => exact rfl
  | some (.error _) => exact rfl
  | some (.ok ()) =>
    refine ⟨⟨id, instant, h, rfl⟩, fun published => ?_⟩
    match published with
    | none => exact rfl
    | some (.error _) => exact rfl
    | some (.ok ()) => exact rfl

theorem binds_submit (h : event.correlationId? = some id) :
    (g.code event).Binds IntakeStanding.answers .holding (g.submit event id) := by
  refine ⟨trivial, fun instant => ?_⟩
  refine (Code.binds_bind (g.enqueue (.ofEvent event id instant)) _ _).2
    ((g.binds_enqueue h instant).mono ?_)
  intro s outcome hs
  match outcome with
  | .ok () => subst hs; exact trivial
  | .error _ => subst hs; exact ⟨⟨id, h, rfl⟩, fun _ => trivial⟩

theorem binds_accept (h : event.correlationId? = some id) :
    (g.code event).Binds IntakeStanding.answers .looking (g.accept event id) := by
  refine ⟨⟨id, h, rfl⟩, fun found => ?_⟩
  have lock : (g.code event).Binds IntakeStanding.answers .looking
      ((g.idempotency.tryLock id).bind fun l =>
        if l.mayProceed then g.submit event id else .done (.inProgress id)) := by
    refine ⟨⟨id, h, rfl, rfl⟩, fun taken => ?_⟩
    match taken with
    | .ok true => exact g.binds_submit h
    | .ok false => exact trivial
    | .error _ => exact g.binds_submit h
  match found with
  | .ok true => exact trivial
  | .ok false => exact lock
  | .error _ => exact lock

/-- The gateway keeps its code for every event. -/
theorem binds_handle (event : Event) :
    (g.code event).Binds IntakeStanding.answers .looking (g.handle event) := by
  unfold handle
  match g.filter.rejection? event, h : event.correlationId? with
  | some r, _ => exact trivial
  | none, none => exact trivial
  | none, some id => exact g.binds_accept h

end Gateway
end ReplyPipeline
