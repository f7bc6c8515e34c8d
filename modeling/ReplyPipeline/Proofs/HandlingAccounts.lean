import ReplyPipeline.Proofs.Custody

/-!
# Accounts of handlings

The account of a handling is its whole history. It says what was processed and what was put back
into the queue, and by its outcome a handling can be held to it: a task is processed once, and it
is put back once or not at all, with one more failed attempt and only if the policy grants another
one.
-/
namespace ReplyPipeline

/-- The task that was handed to the processing function. -/
def Exchange.processed? : Exchange → Option Envelope
  | ⟨.process e _, _⟩ => some e
  | _ => none

/-- The message that got into the queue. -/
def Exchange.pushed? : Exchange → Option Broker.Message
  | ⟨.publish e _, some (.ok ())⟩ => some (.ofEnvelope e)
  | _ => none

/-- A publication was not done. -/
def Exchange.isRefusal : Exchange → Bool
  | ⟨.publish .., some (.ok ())⟩ => false
  | ⟨.publish .., _⟩ => true
  | _ => false

namespace History

def processed (past : History) : List Envelope := past.reverse.filterMap Exchange.processed?

def pushed (past : History) : List Broker.Message := past.reverse.filterMap Exchange.pushed?

def wasRefused (past : History) : Bool := past.any Exchange.isRefusal

variable (y : Exchange) (past : History)

@[simp] theorem processed_nil : processed [] = [] := rfl

@[simp] theorem pushed_nil : pushed [] = [] := rfl

@[simp] theorem processed_cons : processed (y :: past) = past.processed ++ y.processed?.toList := by
  unfold processed
  rw [List.reverse_cons, List.filterMap_append]
  cases h : y.processed? <;> simp [h]

@[simp] theorem pushed_cons : pushed (y :: past) = past.pushed ++ y.pushed?.toList := by
  unfold pushed
  rw [List.reverse_cons, List.filterMap_append]
  cases h : y.pushed? <;> simp [h]

@[simp] theorem wasRefused_cons : wasRefused (y :: past) = (y.isRefusal || past.wasRefused) := rfl

end History

namespace TaskHandler

/-- A handling keeps account: what it processes is the task of its delivery, and what it publishes
is that task with one more failed attempt, which the policy grants. It does either once. -/
def account (x : TaskHandler) (d : Broker.Delivery) : Code History where
  after past y := y :: past
  allows past
    | .process e _ => Envelope.ofBytes d.message.body = .ok e ∧ past.processed = []
    | .publish e _ =>
      (∃ task, Envelope.ofBytes d.message.body = .ok task ∧ e = task.recordFailure) ∧
        x.retry.shouldRetry e.attempts = true ∧ past.pushed = []
    | _ => True

/-- What a handling has done, by its outcome. -/
def Closes (x : TaskHandler) (d : Broker.Delivery) (past : History) : DeliveryOutcome → Prop
  | .malformed =>
    (∃ f, Envelope.ofBytes d.message.body = .error f) ∧ past.processed = [] ∧ past.pushed = []
  | .completed =>
    ∃ e, Envelope.ofBytes d.message.body = .ok e ∧ past.processed = [e] ∧ past.pushed = []
  | .retried n =>
    ∃ e, Envelope.ofBytes d.message.body = .ok e ∧ past.processed = [e] ∧
      past.pushed = [.ofEnvelope e.recordFailure] ∧ n = e.recordFailure.attempts ∧
      x.retry.shouldRetry n = true
  | .deadLettered n =>
    ∃ e, Envelope.ofBytes d.message.body = .ok e ∧ past.processed = [e] ∧ past.pushed = [] ∧
      n = e.recordFailure.attempts ∧ (x.retry.shouldRetry n = true → past.wasRefused = true)

theorem Closes.quiet {x : TaskHandler} {d : Broker.Delivery} {past : History} {y : Exchange}
    {outcome : DeliveryOutcome} (h : x.Closes d past outcome) (processed : y.processed? = none)
    (pushed : y.pushed? = none) : x.Closes d (y :: past) outcome := by
  have same : History.processed (y :: past) = past.processed := by
    rw [History.processed_cons, processed]
    exact List.append_nil _
  have kept : History.pushed (y :: past) = past.pushed := by
    rw [History.pushed_cons, pushed]
    exact List.append_nil _
  cases outcome with
  | deadLettered n =>
    obtain ⟨e, he, tried, none, number, why⟩ := h
    refine ⟨e, he, same.trans tried, kept.trans none, number, fun granted => ?_⟩
    rw [History.wasRefused_cons, why granted, Bool.or_true]
  | _ => simpa only [Closes, same, kept] using h

/-- No handling makes more requests than this. -/
def requestBound : Nat := 9

/-- A handling has ended as its outcome says, within the bound. -/
def Ends (x : TaskHandler) (d : Broker.Delivery) (past : History) (outcome : DeliveryOutcome) :
    Prop :=
  past.length ≤ requestBound ∧ x.Closes d past outcome

variable (x : TaskHandler) (d : Broker.Delivery) {e : Envelope} {past : History}

@[simp] theorem standing_account : (x.account d).standing [] past = past := by
  induction past with
  | nil => rfl
  | cons y past ih => exact congrArg (y :: ·) ih

/-- A task has been tried, by so many requests at most, and this is what has got into the queue. -/
structure Tried (past : History) (e : Envelope) (messages : List Broker.Message) (requests : Nat) :
    Prop where
  length : past.length ≤ requests
  processed : past.processed = [e]
  pushed : past.pushed = messages

variable {messages : List Broker.Message} {m n : Nat}

theorem Tried.mono (h : Tried past e messages m) (bound : m ≤ n) : Tried past e messages n :=
  ⟨Nat.le_trans h.length bound, h.processed, h.pushed⟩

theorem Tried.cons (h : Tried past e messages n) {y : Exchange} (processed : y.processed? = none) :
    Tried (y :: past) e (messages ++ y.pushed?.toList) (n + 1) := by
  refine ⟨Nat.succ_le_succ h.length, ?_, ?_⟩
  · rw [History.processed_cons, h.processed, processed]
    rfl
  · rw [History.pushed_cons, h.pushed]

/-- Another exchange that puts nothing into the queue either. -/
theorem Tried.quiet (h : Tried past e messages n) {y : Exchange} (processed : y.processed? = none)
    (pushed : y.pushed? = none) : Tried (y :: past) e messages (n + 1) := by
  have next := h.cons processed
  rw [pushed] at next
  simpa using next

theorem account_attempt (he : Envelope.ofBytes d.message.body = .ok e) (started : past.length ≤ 1)
    (processed : past.processed = []) (pushed : past.pushed = []) :
    (x.account d).Binds (fun past _ => Tried past e [] 3) past (x.attempt e) := by
  refine ⟨⟨he, processed⟩, fun outcome => ?_⟩
  have tried : Tried (⟨.process e x.processingLimit, outcome⟩ :: past) e [] 2 := by
    refine ⟨Nat.succ_le_succ started, ?_, ?_⟩
    · rw [History.processed_cons, processed]
      rfl
    · rw [History.pushed_cons, pushed]
      rfl
  match outcome with
  | .failed _ => exact tried.mono (Nat.le_succ 2)
  | .panicked _ => exact tried.mono (Nat.le_succ 2)
  | .tooLate => exact tried.mono (Nat.le_succ 2)
  | .reply text =>
    change (x.account d).Binds _ _ (post e text)
    unfold post
    match e.responseMode.delivery? with
    | none => exact tried.mono (Nat.le_succ 2)
    | some isPrivate =>
      refine ⟨trivial, fun accepted => ?_⟩
      match accepted with
      | .ok () => exact tried.quiet rfl rfl
      | .error _ => exact tried.quiet rfl rfl

/-- The account is closed but for the end of the delivery. -/
def Settles (x : TaskHandler) (d : Broker.Delivery) (past : History) (outcome : DeliveryOutcome) :
    Prop :=
  past.length < requestBound ∧ x.Closes d past outcome

theorem account_complete (he : Envelope.ofBytes d.message.body = .ok e)
    (h : Tried past e [] 3) :
    (x.account d).Binds (x.Settles d) past (x.complete d e) := by
  refine ⟨trivial, fun marked => ⟨trivial, fun acked => ⟨trivial, fun _ => ?_⟩⟩⟩
  have marked := h.quiet (y := ⟨.store (.set _ _ _) _, marked⟩) rfl rfl
  have settled := marked.quiet (y := ⟨.settle _ _, acked⟩) rfl rfl
  have last := settled.quiet (y := ⟨.tally .succeeded, ()⟩) rfl rfl
  exact ⟨Nat.lt_of_le_of_lt last.length (by decide), e, he, last.processed, last.pushed⟩

theorem account_giveUp (he : Envelope.ofBytes d.message.body = .ok e)
    (h : Tried past e [] 5)
    (why : x.retry.shouldRetry e.recordFailure.attempts = true → past.wasRefused = true) :
    (x.account d).Binds (x.Settles d) past
      (x.giveUp d e.correlationId e.recordFailure.attempts) := by
  refine ⟨trivial, fun rejected => ⟨trivial, fun deleted => ⟨trivial, fun _ => ?_⟩⟩⟩
  have settled := h.quiet (y := ⟨.settle _ _, rejected⟩) rfl rfl
  have released := settled.quiet (y := ⟨.store (.delete _) _, deleted⟩) rfl rfl
  have last := released.quiet (y := ⟨.tally .deadLettered, ()⟩) rfl rfl
  exact ⟨Nat.lt_of_le_of_lt last.length (by decide), e, he, last.processed, last.pushed, rfl, why⟩

theorem account_fail (he : Envelope.ofBytes d.message.body = .ok e) (h : Tried past e [] 3) :
    (x.account d).Binds (x.Settles d) past (x.fail d e) := by
  unfold fail RetryPolicy.decide
  cases granted : x.retry.shouldRetry (Envelope.saturatingSucc e.attempts) with
  | false =>
    exact x.account_giveUp d he (h.mono (by decide)) fun h => absurd (granted.symm.trans h) nofun
  | true =>
    have held := h.quiet (y := ⟨.pause (x.retry.backoff (Envelope.saturatingSucc e.attempts)), ()⟩)
      rfl rfl
    refine ⟨trivial, fun _ => ⟨⟨⟨e, he, rfl⟩, granted, held.pushed⟩, fun published => ?_⟩⟩
    have next := held.cons (y := ⟨.publish e.recordFailure none, published⟩) rfl
    match published with
    | none => exact x.account_giveUp d he next fun _ => rfl
    | some (.error _) => exact x.account_giveUp d he next fun _ => rfl
    | some (.ok ()) =>
      refine ⟨trivial, fun acked => ⟨trivial, fun _ => ?_⟩⟩
      have settled := next.quiet (y := ⟨.settle _ _, acked⟩) rfl rfl
      have last := settled.quiet (y := ⟨.tally .retried, ()⟩) rfl rfl
      exact ⟨Nat.lt_of_le_of_lt last.length (by decide), e, he, last.processed, last.pushed, rfl,
        granted⟩

theorem account_discard {f : EnvelopeError} (hf : Envelope.ofBytes d.message.body = .error f)
    (started : past.length ≤ 1) (processed : past.processed = []) (pushed : past.pushed = []) :
    (x.account d).Binds (x.Settles d) past (x.discard d) := by
  have closes : x.Closes d past .malformed := ⟨⟨f, hf⟩, processed, pushed⟩
  have close {past : History} (h : x.Closes d past .malformed) (bound : past.length ≤ 3) :
      (x.account d).Binds (x.Settles d) past
        (Action.tally .malformed >>= fun _ => pure .malformed) :=
    ⟨trivial, fun _ => ⟨Nat.lt_of_le_of_lt (Nat.succ_le_succ bound) (by decide), h.quiet rfl rfl⟩⟩
  unfold discard
  refine ⟨trivial, fun rejected => ?_⟩
  have settled : x.Closes d (⟨.settle d.id .reject, rejected⟩ :: past) .malformed :=
    closes.quiet rfl rfl
  match d.message.correlationId.map CorrelationId.ofText with
  | none => exact close settled (Nat.succ_le_succ (Nat.le_succ_of_le started))
  | some (.error _) => exact close settled (Nat.succ_le_succ (Nat.le_succ_of_le started))
  | some (.ok id) =>
    refine ⟨trivial, fun deleted => close (settled.quiet rfl rfl) ?_⟩
    exact Nat.succ_le_succ (Nat.succ_le_succ started)

/-- A worker keeps account of every delivery, and closes it as the outcome says. -/
theorem account_handle : (x.account d).Binds (x.Settles d) [] (x.handle d) := by
  unfold handle
  refine ⟨trivial, fun _ => ?_⟩
  match he : Envelope.ofBytes d.message.body with
  | .error f => exact x.account_discard d he (Nat.le_refl _) rfl rfl
  | .ok e =>
    refine (Code.binds_bind (x.attempt e) _ _).2 ?_
    refine (x.account_attempt d he (Nat.le_refl _) rfl rfl).mono fun past result tried => ?_
    match result with
    | .ok () => exact x.account_complete d he tried
    | .error _ => exact x.account_fail d he tried

theorem account_serve : (x.account d).Binds (x.Ends d) [] (x.serve d) := by
  refine (Code.binds_bind (x.handle d) _ _).2 ((x.account_handle d).mono ?_)
  rintro past outcome ⟨bound, closes⟩
  exact ⟨trivial, fun _ => ⟨bound, closes.quiet rfl rfl⟩⟩

end TaskHandler

namespace Traffic

section Codes

variable {σ : Type} {c : Broker.Delivery → Code σ}
  {ends : Broker.Delivery → σ → DeliveryOutcome → Prop} {first : σ} {g : Gateway}
  {x : TaskHandler} {permits : Happening → Bool} {start s s' : Traffic} {what : Happening}

theorem Step.keeps (binds : ∀ d, (c d).Binds (ends d) first (x.serve d))
    (hs : ∀ h ∈ s.handlings, h.thread.Keeps (c h.delivery) (ends h.delivery) first)
    (h : Step g x s what s') :
    ∀ h ∈ s'.handlings, h.thread.Keeps (c h.delivery) (ends h.delivery) first := by
  cases h with
  | take ht => exact List.forall_mem_append.2 ⟨hs, List.forall_mem_singleton.2 ⟨trivial, binds _⟩⟩
  | @handling as bs h t w what hl ht =>
    exact forall_mem_replaced hl hs (ht.keeps (hs h (by simp [hl])))
  | @crashHandling as bs h hl alive =>
    obtain ⟨kept, rest⟩ := hs h (by simp [hl])
    exact forall_mem_replaced hl hs ⟨kept, rest⟩
  | _ => exact hs

theorem keeps_of_reaches (binds : ∀ d, (c d).Binds (ends d) first (x.serve d))
    (none : start.handlings = []) (run : Reaches g x permits start s) :
    ∀ h ∈ s.handlings, h.thread.Keeps (c h.delivery) (ends h.delivery) first := by
  induction run with
  | refl => simp [none]
  | step _ _ hstep ih => exact hstep.keeps binds ih

end Codes

/-- A handling that has ended has done what its outcome says. -/
theorem ends_of_reaches {g : Gateway} {x : TaskHandler} {permits : Happening → Bool}
    {start s : Traffic} (none : start.handlings = []) (run : Reaches g x permits start s)
    {h : Handling} (hh : h ∈ s.handlings) {outcome : DeliveryOutcome}
    (ended : h.thread.rest = .done outcome) : x.Ends h.delivery h.thread.past outcome := by
  have rest := (keeps_of_reaches x.account_serve none run h hh).rest
  rw [ended, TaskHandler.standing_account] at rest
  exact rest

end Traffic
end ReplyPipeline
