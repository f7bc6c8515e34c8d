import ReplyPipeline.Proofs.HandlingConduct

/-!
# What the standing of a handling says of its history

A standing is a summary. Here its stage and its mark for a new publication are read back as
exchanges that have taken place, for every history in which the worker kept its code. From this
follows what comes before an acknowledgement.
-/
namespace ReplyPipeline

def Exchange.isPublication : Exchange → Bool
  | ⟨.publish .., some (.ok ())⟩ => true
  | _ => false

namespace History

def hasPublished (past : History) : Bool := past.any Exchange.isPublication

/-- A reply to the task of a message has been made, and the sink has accepted it if its mode
delivers replies. -/
def HasSucceeded (past : History) (m : Broker.Message) : Prop :=
  ∃ e limit text, Envelope.ofBytes m.body = .ok e ∧
    (⟨.process e limit, ProcessingOutcome.reply text⟩ : Exchange) ∈ past ∧
    ∀ isPrivate, e.responseMode.delivery? = some isPrivate →
      (⟨.reply e.tenant e.conversation text isPrivate, Except.ok ()⟩ : Exchange) ∈ past

theorem HasSucceeded.cons {past : History} {m : Broker.Message} (h : past.HasSucceeded m)
    (x : Exchange) : HasSucceeded (x :: past) m := by
  obtain ⟨e, limit, text, he, made, posted⟩ := h
  exact ⟨e, limit, text, he, List.mem_cons_of_mem x made,
    fun isPrivate hm => List.mem_cons_of_mem x (posted isPrivate hm)⟩

end History

theorem Code.Kept.split {σ : Type} {c : Code σ} {start : σ} {newer older : History} {x : Exchange}
    (h : c.Kept start (newer ++ x :: older)) :
    c.allows (c.standing start older) x.request ∧ c.Kept start older := by
  induction newer with
  | nil => exact h
  | cons y newer ih => exact ih h.2

namespace HandlingStanding

theorem passedOn_after (s : HandlingStanding) (x : Exchange) :
    (s.after x).passedOn = (x.isPublication || s.passedOn) := by
  obtain ⟨r, a⟩ := x
  cases r with
  | publish e deadline =>
    match a with
    | none => rfl
    | some (.error _) => rfl
    | some (.ok ()) => rfl
  | process e limit => cases a <;> rfl
  | reply => cases a <;> rfl
  | store call limit => cases call <;> rfl
  | _ => rfl

/-- What a stage says of a history. -/
def StageHolds (m : Broker.Message) (past : History) : AttemptStage → Prop
  | .made text =>
    ∃ e limit, Envelope.ofBytes m.body = .ok e ∧
      (⟨.process e limit, ProcessingOutcome.reply text⟩ : Exchange) ∈ past
  | .succeeded => past.HasSucceeded m
  | _ => True

theorem StageHolds.cons {m : Broker.Message} {past : History} {stage : AttemptStage}
    (h : StageHolds m past stage) (x : Exchange) : StageHolds m (x :: past) stage := by
  cases stage with
  | made text =>
    obtain ⟨e, limit, he, made⟩ := h
    exact ⟨e, limit, he, List.mem_cons_of_mem x made⟩
  | succeeded => exact History.HasSucceeded.cons h x
  | _ => exact h

end HandlingStanding

namespace TaskHandler

variable {x : TaskHandler} {d : Broker.Delivery} {past : History}

theorem passedOn_eq (past : History) :
    ((x.code d).standing {} past).passedOn = past.hasPublished := by
  induction past with
  | nil => rfl
  | cons y past ih =>
    rw [Code.standing_cons]
    exact (HandlingStanding.passedOn_after _ y).trans (by rw [ih]; rfl)

theorem mem_of_settlement {how : Broker.Settlement} {done : Bool}
    (h : ((x.code d).standing {} past).settlement = some (how, done)) :
    ∃ id outcome, (⟨.settle id how, outcome⟩ : Exchange) ∈ past ∧ Except.isOk outcome = done := by
  induction past with
  | nil => cases h
  | cons y past ih =>
    obtain ⟨r, a⟩ := y
    have earlier (same : ((x.code d).standing {} past).settlement = some (how, done)) :
        ∃ id outcome, (⟨.settle id how, outcome⟩ : Exchange) ∈ (⟨r, a⟩ : Exchange) :: past ∧
          Except.isOk outcome = done := by
      obtain ⟨id, outcome, asked, answered⟩ := ih same
      exact ⟨id, outcome, List.mem_cons_of_mem _ asked, answered⟩
    rw [Code.standing_cons] at h
    cases r with
    | settle id how' =>
      obtain ⟨rfl, rfl⟩ := Prod.mk.inj (Option.some.inj h)
      exact ⟨id, a, List.mem_cons_self, rfl⟩
    | process e limit => cases a <;> exact earlier h
    | reply => cases a <;> exact earlier h
    | publish e deadline =>
      match a with
      | none => exact earlier h
      | some (.error _) => exact earlier h
      | some (.ok ()) => exact earlier h
    | store call limit => cases call <;> exact earlier h
    | _ => exact earlier h

/-- The stage of a handling is what its history makes it. -/
theorem stageHolds_of_kept (h : (x.code d).Kept {} past) :
    HandlingStanding.StageHolds d.message past ((x.code d).standing {} past).stage := by
  induction past with
  | nil => trivial
  | cons y past ih =>
    obtain ⟨r, a⟩ := y
    obtain ⟨hr, kept⟩ := h
    have before := ih kept
    rw [Code.standing_cons]
    generalize (x.code d).standing {} past = s at hr before ⊢
    cases r with
    | process e limit =>
      obtain ⟨he, -, -⟩ := hr
      cases a with
      | reply text =>
        change HandlingStanding.StageHolds d.message _
          (if e.responseMode.delivery?.isSome then .made text else .succeeded)
        cases hm : e.responseMode.delivery? with
        | some isPrivate => exact ⟨e, limit, he, List.mem_cons_self⟩
        | none => exact ⟨e, limit, text, he, List.mem_cons_self, by simp [hm]⟩
      | _ => trivial
    | reply tenant conversation text isPrivate =>
      obtain ⟨e, he, hm, rfl, rfl, rfl⟩ := hr
      obtain ⟨e', limit, he', made⟩ := before
      obtain rfl : e = e' := Except.ok.inj (he.symm.trans he')
      match a with
      | .ok () =>
        refine ⟨e, limit, text, he, List.mem_cons_of_mem _ made, fun p hp => ?_⟩
        obtain rfl : isPrivate = p := Option.some.inj (hm.symm.trans hp)
        exact List.mem_cons_self
      | .error _ => trivial
    | publish e deadline =>
      match a with
      | none => exact before.cons _
      | some (.error _) => exact before.cons _
      | some (.ok ()) => exact before.cons _
    | store call limit => cases call <;> exact before.cons _
    | _ => exact before.cons _

/-- A delivery is acknowledged only after a success or a new publication. -/
theorem before_ack {id : Broker.DeliveryId} (kept : (x.code d).Kept {} past)
    (h : (x.code d).allows ((x.code d).standing {} past) (.settle id .ack)) :
    past.HasSucceeded d.message ∨ past.hasPublished = true := by
  have stage := stageHolds_of_kept kept
  rw [← passedOn_eq (x := x) (d := d)]
  obtain ⟨-, hs | hs⟩ := h
  · rw [hs] at stage
    exact .inl stage
  · rw [hs]
    exact .inr rfl

end TaskHandler
end ReplyPipeline
