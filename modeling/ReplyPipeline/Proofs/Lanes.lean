import ReplyPipeline.Proofs.RetryChains

/-!
# Lanes

The copies of one task follow each other in a lane: each but the last has been taken and published
again with one more failed attempt, and the last one waits or is in the hands of a call. The length
of a lane is bounded by the number of attempts that the policy leaves to the task.
-/
namespace ReplyPipeline

namespace TaskHandler

variable {x : TaskHandler} {m m' : Broker.Message} {e : Envelope}
  {lane as bs : List (Broker.Message × Bool)} {waiting : List Broker.Message}

/-- How often a message is taken at most: once if it is no task, and else as often as the policy
leaves attempts to it, but once at least. -/
def tries (x : TaskHandler) (m : Broker.Message) : Nat :=
  match Envelope.ofBytes m.body with
  | .error _ => 1
  | .ok e => max 1 (x.retry.maxAttempts.toNat - e.attempts.toNat)

/-- The copies of a message that were published again, the first one first, and the one that came
of the last. -/
inductive Trail (x : TaskHandler) (m : Broker.Message) :
    List (Broker.Message × Bool) → Broker.Message → Prop
  | start : Trail x m [] m
  | next {lane : List (Broker.Message × Bool)} {m' : Broker.Message} {e : Envelope} :
      Trail x m lane m' → Envelope.ofBytes m'.body = .ok e →
      x.retry.shouldRetry e.recordFailure.attempts = true →
      Trail x m (lane ++ [(m', true)]) (.ofEnvelope e.recordFailure)

/-- The copies of a message that were taken, each with whether it was published again, and those
that wait: the last one has been taken, or it waits. -/
inductive Lane (x : TaskHandler) (m : Broker.Message) :
    List (Broker.Message × Bool) → List Broker.Message → Prop
  | waits {lane : List (Broker.Message × Bool)} {m' : Broker.Message} :
      x.Trail m lane m' → Lane x m lane [m']
  | held {lane : List (Broker.Message × Bool)} {m' : Broker.Message} :
      x.Trail m lane m' → Lane x m (lane ++ [(m', false)]) []

theorem Trail.passed (h : x.Trail m lane m') : ∀ p ∈ lane, p.2 = true := by
  induction h with
  | start => nofun
  | next _ _ _ ih => exact List.forall_mem_append.2 ⟨ih, List.forall_mem_singleton.2 rfl⟩

/-- What is published again is read as a task with one more failed attempt. -/
theorem ofBytes_retried (decoded : Envelope.ofBytes m.body = .ok e)
    (granted : x.retry.shouldRetry e.recordFailure.attempts = true) :
    ∃ e', Envelope.ofBytes (Broker.Message.ofEnvelope e.recordFailure).body = .ok e' ∧
      e'.attempts.toNat = e.attempts.toNat + 1 ∧
      e'.attempts.toNat < x.retry.maxAttempts.toNat := by
  obtain ⟨next, one⟩ := RetryPolicy.saturatingSucc_of_shouldRetry granted
  have writable := (Envelope.writable_of_ofBytes decoded).withAttempts
    (Envelope.saturatingSucc e.attempts)
  obtain ⟨raw, botConfig, back, -⟩ := Envelope.ofBytes_toBytes writable
  refine ⟨_, back, ?_, UInt32.lt_iff_toNat_lt.1 (of_decide_eq_true granted)⟩
  change (Envelope.saturatingSucc e.attempts).toNat = _
  rw [next, one]

/-- Along a trail the count of failed attempts goes up by one for each copy, and stays below the
bound of the policy. -/
theorem Trail.attempts (h : x.Trail m lane m') (decoded : Envelope.ofBytes m.body = .ok e) :
    ∃ e', Envelope.ofBytes m'.body = .ok e' ∧
      e'.attempts.toNat = e.attempts.toNat + lane.length ∧
      (lane = [] ∨ e'.attempts.toNat < x.retry.maxAttempts.toNat) := by
  induction h with
  | start => exact ⟨e, decoded, rfl, .inl rfl⟩
  | @next lane m' task _ he granted ih =>
    obtain ⟨e', he', count, -⟩ := ih
    obtain rfl : task = e' := Except.ok.inj (he.symm.trans he')
    obtain ⟨e', again, next, bound⟩ := ofBytes_retried he granted
    exact ⟨e', again, by rw [next, count, List.length_append]; rfl, .inr bound⟩

theorem Trail.eq_nil (h : x.Trail m lane m') {f : EnvelopeError}
    (undecoded : Envelope.ofBytes m.body = .error f) : lane = [] ∧ m' = m := by
  induction h with
  | start => exact ⟨rfl, rfl⟩
  | next _ he _ ih =>
    obtain ⟨-, rfl⟩ := ih
    rw [undecoded] at he
    cases he

theorem Trail.length_lt (h : x.Trail m lane m') : lane.length < x.tries m := by
  unfold tries
  split
  next f undecoded => rw [(h.eq_nil undecoded).1]; exact Nat.one_pos
  next e decoded =>
    obtain ⟨e', -, count, rfl | bound⟩ := h.attempts decoded
    · exact Nat.lt_of_lt_of_le Nat.one_pos (Nat.le_max_left ..)
    · exact Nat.lt_of_lt_of_le (by omega) (Nat.le_max_right ..)

namespace Lane

theorem length_le (h : x.Lane m lane waiting) : lane.length + waiting.length ≤ x.tries m := by
  cases h with
  | waits trail => exact trail.length_lt
  | held trail => simpa using trail.length_lt

theorem take (h : x.Lane m lane (m' :: waiting)) :
    waiting = [] ∧ x.Lane m (lane ++ [(m', false)]) [] := by
  cases h with
  | waits trail => exact ⟨rfl, .held trail⟩

/-- Only the last copy can be published again, and only while none waits. -/
theorem pass (h : x.Lane m (as ++ (m', false) :: bs) waiting)
    (decoded : Envelope.ofBytes m'.body = .ok e)
    (granted : x.retry.shouldRetry e.recordFailure.attempts = true) :
    x.Lane m (as ++ (m', true) :: bs) (waiting ++ [.ofEnvelope e.recordFailure]) := by
  generalize hl : as ++ (m', false) :: bs = lane at h
  -- A copy that was not published again is the last one, so nothing stands behind it.
  cases h with
  | waits trail => exact absurd (trail.passed (m', false) (by simp [← hl])) nofun
  | @held lane last trail =>
    rcases List.eq_nil_or_concat bs with rfl | ⟨bs, b, rfl⟩
    · obtain ⟨rfl, same⟩ := List.append_inj' hl rfl
      cases same
      exact .waits (trail.next decoded granted)
    · have shape : (as ++ (m', false) :: bs) ++ [b] = lane ++ [(last, false)] := by simpa using hl
      obtain ⟨rfl, -⟩ := List.append_inj' shape rfl
      exact absurd (trail.passed (m', false) (by simp)) nofun

theorem eq_held (h : x.Lane m lane []) :
    ∃ earlier last, lane = earlier ++ [(last, false)] ∧ x.Trail m earlier last := by
  cases h with
  | held trail => exact ⟨_, _, rfl, trail⟩

end Lane
end TaskHandler
end ReplyPipeline
