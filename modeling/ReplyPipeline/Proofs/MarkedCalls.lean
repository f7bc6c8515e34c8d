import ReplyPipeline.Proofs.NoLoss

/-!
# Calls that begin where the marker is set

A worker does not look at the marker. What a call of it posts is decided by the processing
function, the mode and the sink, so that a delivery that comes back after its task was completed is
replied to once more. The exact condition is stated for all traffic, with the calls that were cut
off and those that have not ended.
-/
namespace ReplyPipeline

def Exchange.isReply : Exchange → Bool
  | ⟨.reply .., .ok ()⟩ => true
  | _ => false

def History.replies (past : History) : Nat := past.countP Exchange.isReply

/-- The store answers, nothing is cut off, and nobody else writes to the store. -/
def Traffic.storeAnswers : Happening → Bool
  | .answered ⟨.store .., a⟩ => Except.isOk a
  | .crashed => false
  | .intruded => false
  | _ => true

theorem HandlingStanding.posted_after (s : HandlingStanding) (x : Exchange) :
    (s.after x).posted = x.isReply.toNat + s.posted := by
  obtain ⟨r, a⟩ := x
  cases r with
  | reply =>
    match a with
    | .ok () => exact Nat.add_comm ..
    | .error _ => exact (Nat.zero_add _).symm
  | publish e deadline =>
    match a with
    | none => exact (Nat.zero_add _).symm
    | some (.error _) => exact (Nat.zero_add _).symm
    | some (.ok ()) => exact (Nat.zero_add _).symm
  | process e limit => cases a <;> exact (Nat.zero_add _).symm
  | store call limit => cases call <;> exact (Nat.zero_add _).symm
  | _ => exact (Nat.zero_add _).symm

namespace TaskHandler

variable {x : TaskHandler} {d : Broker.Delivery} {past : History}

theorem posted_eq (past : History) : ((x.code d).standing {} past).posted = past.replies := by
  induction past with
  | nil => rfl
  | cons y past ih =>
    refine (HandlingStanding.posted_after _ y).trans ?_
    change y.isReply.toNat + ((x.code d).standing {} past).posted = _
    unfold History.replies at ih ⊢
    rw [ih, List.countP_cons]
    cases y.isReply
    · exact Nat.zero_add _
    · exact Nat.add_comm ..

/-- One reply has been posted if an attempt has succeeded whose mode delivers replies, and else
none. -/
theorem posted_of_kept {e : Envelope} (he : Envelope.ofBytes d.message.body = .ok e)
    (h : (x.code d).Kept {} past) :
    ((x.code d).standing {} past).posted =
      if e.responseMode.delivery?.isSome = true ∧
        ((x.code d).standing {} past).stage = .succeeded then 1 else 0 := by
  induction past with
  | nil => simp
  | cons y past ih =>
    obtain ⟨r, a⟩ := y
    obtain ⟨hr, kept⟩ := h
    have before := ih kept
    rw [Code.standing_cons]
    generalize (x.code d).standing {} past = s at hr before ⊢
    cases r with
    | process e' limit =>
      obtain ⟨he', -, rfl⟩ := hr
      obtain rfl : e = e' := Except.ok.inj (he.symm.trans he')
      cases a with
      | reply text =>
        refine (if_neg ?_).symm
        rintro ⟨hm, hs⟩
        change (if e.responseMode.delivery?.isSome then AttemptStage.made text else .succeeded) = _
          at hs
        rw [if_pos hm] at hs
        cases hs
      | _ => exact (if_neg nofun).symm
    | reply tenant conversation text isPrivate =>
      obtain ⟨e', he', hm, -, -, rfl⟩ := hr
      obtain rfl : e = e' := Except.ok.inj (he.symm.trans he')
      match a with
      | .ok () => exact (if_pos ⟨by rw [hm]; rfl, rfl⟩).symm
      | .error _ => exact (if_neg nofun).symm
    | publish e deadline =>
      match a with
      | none => exact before
      | some (.error _) => exact before
      | some (.ok ()) => exact before
    | store call limit => cases call <;> exact before
    | _ => exact before

end TaskHandler

namespace Traffic

variable {g : Gateway} {x : TaskHandler} {permits : Happening → Bool} {start s : Traffic}

/-- A task is completed and its marker set, but the acknowledgement fails. The call that the delivery
is then handed out to completes as well. -/
theorem exists_redelivered_call :
    ∃ s h e, Reaches {} {} storeAnswers quiet s ∧ h ∈ s.handlings ∧
      Envelope.ofBytes h.delivery.message.body = .ok e ∧
      (h.start.store.peek h.start.now (Idempotency.markerKey {} e.correlationId)).isSome = true ∧
      e.responseMode.delivery?.isSome = true ∧ h.thread.rest = .done .completed ∧
      h.thread.past.replies = 1 := by
  obtain ⟨s, run, hs⟩ := reaches_of_play? {} {} storeAnswers quiet
    (Move.fault .ack 1 :: Move.arrive .greeting :: List.replicate 12 (Move.intake 0) ++ Move.take ::
      List.replicate 14 (Move.handling 0) ++ Move.take :: List.replicate 14 (Move.handling 1))
    (fun s => s.handlings[1]?.any fun h =>
      h.thread.past.replies == 1 &&
        h.thread.result? == some .completed &&
        (Envelope.ofBytes h.delivery.message.body).toOption.any fun e =>
          (h.start.store.peek h.start.now (Idempotency.markerKey {} e.correlationId)).isSome &&
            e.responseMode.delivery?.isSome)
    (by decide +kernel)
  obtain ⟨h, hh, hs⟩ := (Option.any_eq_true ..).1 hs
  obtain ⟨ended, decoded⟩ := Bool.and_eq_true_iff.1 hs
  obtain ⟨replied, ended⟩ := Bool.and_eq_true_iff.1 ended
  obtain ⟨e, he, marked⟩ := (Option.any_eq_true ..).1 decoded
  obtain ⟨marked, delivers⟩ := Bool.and_eq_true_iff.1 marked
  refine ⟨s, h, e, run, List.mem_of_getElem? hh, ?_, marked, delivers, ?_, beq_iff_eq.1 replied⟩
  · cases hd : Envelope.ofBytes h.delivery.message.body with
    | error f => rw [hd] at he; cases he
    | ok e' => rw [hd] at he; cases he; rfl
  · exact Thread.rest_eq_of_result? (beq_iff_eq.1 ended)

/-- A call posts nothing, whether or not the marker is set, exactly when its mode delivers no
replies or no attempt of it has succeeded; of a call that has ended, when it has not completed. -/
theorem call_silent_iff (idle : start.Idle) (run : Reaches g x permits start s) {h : Handling}
    (hh : h ∈ s.handlings) {e : Envelope}
    (he : Envelope.ofBytes h.delivery.message.body = .ok e) :
    (h.thread.past.replies = 0 ↔
      ¬ (e.responseMode.delivery?.isSome = true ∧
        h.thread.past.HasSucceeded h.delivery.message)) ∧
    ∀ outcome, h.thread.rest = .done outcome →
      (h.thread.past.replies = 0 ↔
        ¬ (e.responseMode.delivery?.isSome = true ∧ outcome = .completed)) := by
  have sound := (Sound.of_idle (g := g) (x := x) idle.intakes idle.handlings).reaches run
  obtain ⟨kept, rest⟩ := sound.handlings h hh
  have posted := TaskHandler.posted_of_kept he kept
  rw [TaskHandler.posted_eq] at posted
  have stage := TaskHandler.stageHolds_of_kept kept
  refine ⟨⟨?_, fun failed => ?_⟩, fun outcome ended => ?_⟩
  · rintro none ⟨delivers, e', limit, text, he', -, accepted⟩
    obtain rfl : e = e' := Except.ok.inj (he.symm.trans he')
    obtain ⟨isPrivate, hm⟩ := Option.isSome_iff_exists.1 delivers
    exact absurd rfl (List.countP_eq_zero.1 none _ (accepted isPrivate hm))
  · rw [posted]
    refine if_neg ?_
    rintro ⟨delivers, succeeded⟩
    rw [succeeded] at stage
    exact failed ⟨delivers, stage⟩
  · rw [ended] at rest
    obtain ⟨s₀, fits, hs⟩ := rest
    have completed : ((x.code h.delivery).standing {} h.thread.past).stage = .succeeded ↔
        outcome = .completed := by
      rw [hs]
      cases outcome <;> obtain ⟨_, -, how, -⟩ := fits <;> simp [how]
    rw [posted, ← completed]
    split
    next hp => exact iff_of_false nofun (not_not_intro hp)
    next hn => exact iff_of_true rfl hn

theorem call_silent_iff_of_redelivered :
    ∃ s h e, Reaches {} {} storeAnswers quiet s ∧ h ∈ s.handlings ∧
      Envelope.ofBytes h.delivery.message.body = .ok e ∧
      (h.start.store.peek h.start.now (Idempotency.markerKey {} e.correlationId)).isSome = true ∧
      h.thread.rest = .done .completed ∧ h.thread.past.replies ≠ 0 := by
  obtain ⟨s, h, e, run, hh, he, marked, delivers, ended, -⟩ := exists_redelivered_call
  refine ⟨s, h, e, run, hh, he, marked, ended, fun silent => ?_⟩
  exact ((call_silent_iff ⟨rfl, rfl, rfl, rfl⟩ run hh he).2 _ ended).1 silent ⟨delivers, rfl⟩

/-- The marker alone silences no call, with the store answering and nothing cut off. -/
theorem marked_calls_not_silent :
    ¬ ∀ (g : Gateway) (x : TaskHandler) (start s : Traffic) (h : Handling) (e : Envelope),
      x.idempotency = g.idempotency → start.Idle → Reaches g x storeAnswers start s →
      h ∈ s.handlings → Envelope.ofBytes h.delivery.message.body = .ok e →
      (h.start.store.peek h.start.now (x.idempotency.markerKey e.correlationId)).isSome = true →
      h.thread.past.replies = 0 := by
  intro silent
  obtain ⟨s, h, e, run, hh, he, marked, -, -, replied⟩ := exists_redelivered_call
  have none := silent {} {} quiet s h e rfl ⟨rfl, rfl, rfl, rfl⟩ run hh he marked
  omega

end Traffic
end ReplyPipeline
