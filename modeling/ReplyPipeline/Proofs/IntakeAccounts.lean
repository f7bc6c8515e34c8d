import ReplyPipeline.Proofs.Custody

/-!
# Accounts of intakes

The account of an intake is its whole history. It says how the intake came by the lock: it looks for
the marker, tries the lock once if it finds none, and removes the lock once at most, when it has
gone on from its try.
-/
namespace ReplyPipeline

namespace Idempotency

variable (s : Idempotency) (id : CorrelationId)

def checkRequest : PipelineRequest := .store (.contains (s.markerKey id)) (some s.limit)

def lockRequest : PipelineRequest :=
  .store (.setIfAbsent (s.lockKey id) lockValue s.lockTtl) (some s.limit)

def releaseRequest : PipelineRequest := .store (.delete (s.lockKey id)) (some s.limit)

end Idempotency

namespace Gateway

/-- The lock has been tried, the intake could go on, and nothing has been removed. -/
structure Proceeds (g : Gateway) (id : CorrelationId) (past : History) : Prop where
  tried : ∃ taken : Except Store.Error Bool, (LockAttempt.ofAnswer taken).mayProceed = true ∧
    (⟨g.idempotency.lockRequest id, taken⟩ : Exchange) ∈ past
  kept : ∀ y ∈ past, ∀ key limit, y.request ≠ .store (.delete key) limit

/-- What an intake asks of the store, and when: it begins by looking for the marker, tries the lock
next if it finds none, and removes the lock once at most, after a try from which it could go on. -/
def Calls (g : Gateway) (id : CorrelationId) (past : History) (r : PipelineRequest) : Prop :=
  r = g.idempotency.checkRequest id ∧ past = [] ∨
    (r = g.idempotency.lockRequest id ∧ ∃ found : Except Store.Error Bool,
      found ≠ .ok true ∧ past = [⟨g.idempotency.checkRequest id, found⟩]) ∨
    r = g.idempotency.releaseRequest id ∧ g.Proceeds id past

/-- An intake keeps account: it asks nothing else of the store. -/
def account (g : Gateway) (event : Event) : Code History where
  after past y := y :: past
  allows past
    | .store call limit =>
      ∃ id, event.correlationId? = some id ∧ g.Calls id past (.store call limit)
    | _ => True

variable (g : Gateway) {event : Event} {id : CorrelationId}

@[simp] theorem standing_account {past : History} : (g.account event).standing [] past = past := by
  induction past with
  | nil => rfl
  | cons y past ih => exact congrArg (y :: ·) ih

variable {g}

theorem Proceeds.cons {past : History} (h : g.Proceeds id past) {y : Exchange}
    (other : ∀ key limit, y.request ≠ .store (.delete key) limit) : g.Proceeds id (y :: past) := by
  obtain ⟨⟨taken, proceeds, tried⟩, kept⟩ := h
  exact ⟨⟨taken, proceeds, List.mem_cons_of_mem y tried⟩, List.forall_mem_cons.2 ⟨other, kept⟩⟩

variable (g)

theorem account_enqueue {past : History} (h : g.Proceeds id past) (e : Envelope) :
    (g.account event).Binds (fun past _ => g.Proceeds id past) past (g.enqueue e) := by
  refine ⟨trivial, fun (now : Moment) => ⟨trivial, fun declared => ?_⟩⟩
  have declaring := (h.cons (y := ⟨.now, now⟩) nofun).cons
    (y := ⟨.declareTopology (some (now + g.enqueueLimit.nanos)), declared⟩) nofun
  match declared with
  | none => exact declaring
  | some (.error _) => exact declaring
  | some (.ok ()) =>
    refine ⟨trivial, fun published => ?_⟩
    have publishing := declaring.cons
      (y := ⟨.publish e (some (now + g.enqueueLimit.nanos)), published⟩) nofun
    match published with
    | none => exact publishing
    | some (.error _) => exact publishing
    | some (.ok ()) => exact publishing

theorem account_submit {past : History} (named : event.correlationId? = some id)
    (h : g.Proceeds id past) :
    (g.account event).Binds (fun _ _ => True) past (g.submit event id) := by
  refine ⟨trivial, fun instant => ?_⟩
  have dated := h.cons (y := ⟨.wallClock, instant⟩) nofun
  refine (Code.binds_bind (g.enqueue (.ofEvent event id instant)) _ _).2 ?_
  refine (g.account_enqueue dated _).mono fun past outcome h => ?_
  match outcome with
  | .ok () => exact trivial
  | .error _ => exact ⟨⟨id, named, .inr (.inr ⟨rfl, h⟩)⟩, fun _ => trivial⟩

theorem account_accept (named : event.correlationId? = some id) :
    (g.account event).Binds (fun _ _ => True) [] (g.accept event id) := by
  refine ⟨⟨id, named, .inl ⟨rfl, rfl⟩⟩, fun found => ?_⟩
  have lock (new : found ≠ .ok true) :
      (g.account event).Binds (fun _ _ => True) [⟨g.idempotency.checkRequest id, found⟩]
        ((g.idempotency.tryLock id).bind fun l =>
          if l.mayProceed then g.submit event id else .done (.inProgress id)) := by
    refine ⟨⟨id, named, .inr (.inl ⟨rfl, found, new, rfl⟩)⟩, fun taken => ?_⟩
    have tried (proceeds : (LockAttempt.ofAnswer taken).mayProceed = true) :
        g.Proceeds id [⟨g.idempotency.lockRequest id, taken⟩,
          ⟨g.idempotency.checkRequest id, found⟩] :=
      ⟨⟨taken, proceeds, List.mem_cons_self⟩, by
        simp [Idempotency.lockRequest, Idempotency.checkRequest]⟩
    match taken with
    | .ok true => exact g.account_submit named (tried rfl)
    | .ok false => exact trivial
    | .error _ => exact g.account_submit named (tried rfl)
  match found with
  | .ok true => exact trivial
  | .ok false => exact lock nofun
  | .error _ => exact lock nofun

/-- The gateway keeps account of every event. -/
theorem account_handle (event : Event) :
    (g.account event).Binds (fun _ _ => True) [] (g.handle event) := by
  unfold handle
  match g.filter.rejection? event, named : event.correlationId? with
  | some r, _ => exact trivial
  | none, none => exact trivial
  | none, some id => exact g.account_accept named

end Gateway

namespace Traffic

variable {g : Gateway} {x : TaskHandler} {permits : Happening → Bool} {start s s' : Traffic}
  {what : Happening}

theorem Step.keeps_account
    (hs : ∀ i ∈ s.intakes, i.thread.Keeps (g.account i.event) (fun _ _ => True) [])
    (h : Step g x s what s') :
    ∀ i ∈ s'.intakes, i.thread.Keeps (g.account i.event) (fun _ _ => True) [] := by
  cases h with
  | arrive event =>
    refine List.forall_mem_append.2 ⟨hs, List.forall_mem_singleton.2 ⟨trivial, ?_⟩⟩
    exact g.account_handle event
  | @intake as bs i t w what hl ht =>
    exact forall_mem_replaced hl hs (ht.keeps (hs i (by simp [hl])))
  | @crashIntake as bs i hl =>
    obtain ⟨kept, rest⟩ := hs i (by simp [hl])
    exact forall_mem_replaced hl hs ⟨kept, rest⟩
  | _ => exact hs

theorem keeps_account_of_reaches (none : start.intakes = []) (run : Reaches g x permits start s) :
    ∀ i ∈ s.intakes, i.thread.Keeps (g.account i.event) (fun _ _ => True) [] := by
  induction run with
  | refl => simp [none]
  | step _ _ hstep ih => exact hstep.keeps_account ih

theorem event_permitted (none : start.intakes = []) (run : Reaches g x permits start s) :
    ∀ i ∈ s.intakes, permits (.arrived i.event) = true := by
  induction run with
  | refl => simp [none]
  | step _ hp hstep ih =>
    cases hstep with
    | arrive event => exact List.forall_mem_append.2 ⟨ih, List.forall_mem_singleton.2 hp⟩
    | @intake as bs i t w what hl ht => exact forall_mem_replaced hl ih (ih i (by simp [hl]))
    | @crashIntake as bs i hl => exact forall_mem_replaced hl ih (ih i (by simp [hl]))
    | _ => exact ih

end Traffic
end ReplyPipeline
