import ReplyPipeline.Proofs.Lineage

/-!
# No loss

Whatever fails and whatever is cut off, a task that has been accepted is in one of the queues, in
flight, or done. The order of the effects of a worker does it: it gives a delivery up only after it
has something to show for it. Of the surroundings nothing is assumed; others may write to the store.
-/
namespace ReplyPipeline

/-- A program has made a request, after a history. -/
def Thread.HasAsked {α : Type} (t : Thread α) (r : PipelineRequest) (older : History) : Prop :=
  (∃ newer a, t.past = newer ++ ⟨r, a⟩ :: older) ∨
    t.past = older ∧ t.asked.isSome = true ∧ ∃ next, t.rest = .call r next

/-- The handling has succeeded, or it has the only copy of its task in hand. -/
def Handling.Carries (h : Handling) : Prop :=
  h.standing.stage = .succeeded ∨
    h.isOver = false ∧ h.standing.isSettled = false ∧ h.standing.passedOn = false

/-- What an intake published is in one of the queues, or a handling has it. -/
def Traffic.Carries (s : Traffic) (k : Nat) : Prop :=
  some k ∈ s.ledger.ready ∨ some k ∈ s.ledger.dead ∨
    ∃ h ∈ s.handlings, h.origin = some k ∧ h.Carries

namespace Ledger

variable {l : Ledger} {origin o : Option Nat} {b : Broker.Memory} {what : Happening}

theorem mem_ready_drop {d : Broker.DeliveryId} (h : o ∈ l.ready) : o ∈ (l.drop origin b d).ready := by
  unfold drop
  split
  · exact List.mem_cons_of_mem _ h
  · exact h

theorem mem_dead_drop {d : Broker.DeliveryId} (h : o ∈ l.dead) : o ∈ (l.drop origin b d).dead := by
  unfold drop
  split <;> exact h

/-- A step of a program takes nothing out of the queues. -/
theorem mem_ready_after (h : o ∈ l.ready) : o ∈ (l.after origin b what).ready := by
  unfold after
  split
  · exact List.mem_append_left _ h
  · exact h
  · exact mem_ready_drop h
  · exact h

theorem mem_dead_after (h : o ∈ l.dead) : o ∈ (l.after origin b what).dead := by
  unfold after
  split
  · exact h
  · exact List.mem_append_left _ h
  · exact mem_dead_drop h
  · exact h

theorem mem_ready_of_drop {d : Broker.DeliveryId} {m : Broker.Message} {c : Option Broker.ConsumerId}
    (hold : b.held.lookup d = some ⟨m, c, false⟩) : origin ∈ (l.drop origin b d).ready := by
  unfold drop
  rw [hold]
  exact List.mem_cons_self

end Ledger

namespace Handling

variable {x : TaskHandler} {h h' : Handling} {r : PipelineRequest} {a : r.Answer} {m m' : Record}
  {l : Ledger}

/-- A handling lets its task go only into a queue. -/
theorem Carries.answer (hc : h.Carries) (hr : h.standing.allows x h.delivery r)
    (ha : m.Answers r a m') (next : h'.standing = h.standing.after ⟨r, a⟩)
    (alive' : h'.thread.alive = true)
    (hold : ∃ c, m.broker.held.lookup h.delivery.id =
      some ⟨h.delivery.message, c, h.standing.isSettled⟩) :
    h'.Carries ∨ h.origin ∈ (l.after h.origin m.broker (.answered ⟨r, a⟩)).ready ∨
      h.origin ∈ (l.after h.origin m.broker (.answered ⟨r, a⟩)).dead := by
  obtain ⟨c, hold⟩ := hold
  have open_ : (h.standing.gone || !true) = false := by simp [HandlingStanding.gone_of_allows hr]
  unfold Carries isOver at hc ⊢
  rw [next, alive']
  generalize h.standing = s at *
  cases r with
  | process e limit =>
    obtain ⟨-, -, rfl⟩ := hr
    cases a <;> exact .inl (.inr ⟨rfl, rfl, rfl⟩)
  | reply =>
    obtain ⟨_, -, -, -, -, rfl⟩ := hr
    match a with
    | .ok () => exact .inl (.inl rfl)
    | .error _ => exact .inl (.inr ⟨rfl, rfl, rfl⟩)
  | publish e deadline =>
    obtain ⟨rfl, -⟩ := hr
    match a with
    | none => exact .inl (.inr ⟨rfl, rfl, rfl⟩)
    | some (.error _) => exact .inl (.inr ⟨rfl, rfl, rfl⟩)
    | some (.ok ()) => exact .inr (.inl (List.mem_append_right _ (List.mem_singleton_self _)))
  | settle id how =>
    cases how with
    | ack =>
      obtain ⟨-, hs | hs⟩ := hr
      · refine .inl (.inl ?_)
        rw [hs]
        rfl
      · rw [hs] at hc
        rcases hc with hc | ⟨-, -, hc⟩ <;> cases hc
    | reject =>
      match a with
      | .ok () => exact .inr (.inr (List.mem_append_right _ (List.mem_singleton_self _)))
      | .error _ => obtain ⟨-, rfl | ⟨rfl, -⟩⟩ := hr <;> exact .inl (.inr ⟨rfl, rfl, rfl⟩)
  | drop id =>
    obtain ⟨rfl, -, -⟩ := hr
    rcases hc with hc | ⟨-, unsettled, -⟩
    · exact .inl (.inl hc)
    · rw [unsettled] at hold
      exact .inr (.inl (Ledger.mem_ready_of_drop hold))
  | store call limit =>
    refine .inl ?_
    cases call <;> exact hc.imp_right fun ⟨_, hc⟩ => ⟨open_, hc⟩
  | _ => exact .inl (hc.imp_right fun ⟨_, hc⟩ => ⟨open_, hc⟩)

end Handling

namespace Traffic

variable {g : Gateway} {x : TaskHandler} {start s s' : Traffic} {what : Happening} {k : Nat}

theorem Carries.take (hc : s.Carries k) (d : Broker.Delivery) (b : Broker.Memory) :
    (taking x s d b).Carries k := by
  rcases hc with waits | dead | ⟨h, hh, ho, carries⟩
  · cases hl : s.ledger.ready with
    | nil => rw [hl] at waits; cases waits
    | cons o os =>
      rw [hl] at waits
      rcases List.mem_cons.1 waits with rfl | waits
      · refine .inr (.inr ⟨_, List.mem_append_right _ (List.mem_singleton_self _), ?_, ?_⟩)
        · simp [hl]
        · exact .inr ⟨rfl, rfl, rfl⟩
      · exact .inl (by simpa [taking, hl] using waits)
  · exact .inr (.inl dead)
  · exact .inr (.inr ⟨h, List.mem_append_left _ hh, ho, carries⟩)

/-- What changes one handling keeps what is carried, if that handling goes on carrying its task or
lets it go into a queue. -/
theorem Carries.replaced (hc : s.Carries k) {as bs : List Handling} {h h' : Handling} {w : World}
    {l : Ledger} (hl : s.handlings = as ++ h :: bs) (ho' : h'.origin = h.origin)
    (ready : ∀ o ∈ s.ledger.ready, o ∈ l.ready) (dead : ∀ o ∈ s.ledger.dead, o ∈ l.dead)
    (mine : h.Carries → h'.Carries ∨ h.origin ∈ l.ready ∨ h.origin ∈ l.dead) :
    Traffic.Carries { s with world := w, handlings := as ++ h' :: bs, ledger := l } k := by
  rcases hc with waits | buried | ⟨j, hj, ho, carries⟩
  · exact .inl (ready _ waits)
  · exact .inr (.inl (dead _ buried))
  · rw [hl] at hj
    rcases mem_append_cons.1 hj with rfl | hj
    · rcases mine carries with carries | waits | buried
      · exact .inr (.inr ⟨h', mem_append_cons.2 (.inl rfl), ho'.trans ho, carries⟩)
      · exact .inl (by rw [← ho]; exact waits)
      · exact .inr (.inl (by rw [← ho]; exact buried))
    · exact .inr (.inr ⟨j, mem_append_cons.2 (.inr hj), ho, carries⟩)

theorem Carries.step (hc : s.Carries k) (sound : s.Sound g x) (h : Step g x s what s') :
    s'.Carries k := by
  cases h with
  | arrive event => exact hc
  | take ht => exact hc.take _ _
  | intake hl ht =>
    rcases hc with waits | dead | carried
    · exact .inl (Ledger.mem_ready_after waits)
    · exact .inr (.inl (Ledger.mem_dead_after dead))
    · exact .inr (.inr carried)
  | @handling as bs h t w what hl ht =>
    obtain ⟨alive, alive'⟩ := ht.alive
    refine hc.replaced hl rfl (fun _ => Ledger.mem_ready_after) (fun _ => Ledger.mem_dead_after) ?_
    intro carries
    cases sound.handling_advances (h := h) (by simp [hl]) ht with
    | asked _ still _ =>
      refine .inl ?_
      unfold Handling.Carries Handling.isOver at carries ⊢
      rw [still, alive', ← alive]
      exact carries
    | answered hr ha _ next hold => exact carries.answer hr ha next alive' hold
  | crashIntake => exact hc
  | @crashHandling as bs h hl alive =>
    refine hc.replaced hl rfl (fun _ => Ledger.mem_ready_drop) (fun _ => Ledger.mem_dead_drop) ?_
    intro carries
    rcases carries with succeeded | ⟨open_, unsettled, -⟩
    · exact .inl (.inl succeeded)
    · have custody := sound.custody h (by simp [hl])
      unfold Handling.Custody at custody
      rw [if_neg (by simp [open_]), unsettled] at custody
      obtain ⟨c, hold⟩ := custody
      exact .inr (.inl (Ledger.mem_ready_of_drop hold))
  | drift => exact hc
  | intrude => exact hc

/-- What an intake has published is carried. -/
def Kept (s : Traffic) : Prop :=
  ∀ (k : Nat) (i : Intake), s.intakes[k]? = some i → i.standing = .enqueued → s.Carries k

/-- An intake gets to have published only by what puts its task into the queue. -/
theorem mem_ready_of_enqueued {event : Event} {st : IntakeStanding} {r : PipelineRequest}
    {a : r.Answer} {l : Ledger} {origin : Option Nat} {b : Broker.Memory}
    (hr : st.allows g event r) (before : st ≠ .enqueued) (after : st.after ⟨r, a⟩ = .enqueued) :
    origin ∈ (l.after origin b (.answered ⟨r, a⟩)).ready := by
  cases st with
  | looking =>
    cases r with
    | store call limit =>
      cases call with
      | contains key => cases after
      | setIfAbsent key value ttl =>
        change (if _ then _ else _) = _ at after
        split at after <;> cases after
      | _ => exact hr.elim
    | _ => exact hr.elim
  | holding =>
    cases r with
    | publish e deadline =>
      match a with
      | none => cases after
      | some (.error _) => cases after
      | some (.ok ()) => exact List.mem_append_right _ (List.mem_singleton_self _)
    | store call limit => cases call <;> first | exact hr.elim | cases after
    | _ => first | exact hr.elim | cases after
  | enqueued => exact absurd rfl before
  | released => exact hr.elim

theorem Kept.step (hk : s.Kept) (sound : s.Sound g x) (h : Step g x s what s') : s'.Kept := by
  intro k i hi published
  by_cases before : ∃ j, s.intakes[k]? = some j ∧ j.standing = .enqueued
  · obtain ⟨j, hj, published⟩ := before
    exact (hk k j hj published).step sound h
  cases h with
  | arrive event =>
    rcases Nat.lt_or_ge k s.intakes.length with hlt | hge
    · rw [List.getElem?_append_left hlt] at hi
      exact absurd ⟨i, hi, published⟩ before
    · rw [List.getElem?_append_right hge] at hi
      have new := List.mem_singleton.1 (List.mem_of_getElem? hi)
      rw [new] at published
      cases published
  | @intake as bs j t w what hl ht =>
    rw [getElem?_replaced as bs j] at hi
    split at hi
    next hk =>
      subst hk
      cases hi
      have old : j.standing ≠ .enqueued := fun hj => before ⟨j, by simp [hl], hj⟩
      cases sound.intake_advances (i := j) (by simp [hl]) ht with
      | asked _ still _ =>
        rw [still] at published
        exact absurd published old
      | answered hr _ _ next =>
        rw [next] at published
        exact .inl (mem_ready_of_enqueued hr old published)
    next hk =>
      rw [← hl] at hi
      exact absurd ⟨i, hi, published⟩ before
  | @crashIntake as bs j hl =>
    rw [getElem?_replaced as bs j] at hi
    split at hi
    next hk =>
      subst hk
      cases hi
      exact absurd ⟨j, by simp [hl], published⟩ before
    next hk =>
      rw [← hl] at hi
      exact absurd ⟨i, hi, published⟩ before
  | _ => exact absurd ⟨i, hi, published⟩ before

/-- What all traffic keeps, whatever goes wrong. -/
theorem kept_of_reaches {permits : Happening → Bool} (idle : start.Idle)
    (run : Reaches g x permits start s) : s.Sound g x ∧ s.Traced ∧ s.Kept := by
  have sound := Sound.of_idle (g := g) (x := x) idle.intakes idle.handlings
  induction run with
  | refl =>
    refine ⟨sound, .of_idle idle, fun k i hi => ?_⟩
    rw [idle.intakes] at hi
    cases hi
  | step _ _ hstep ih =>
    obtain ⟨sound, traced, kept⟩ := ih
    exact ⟨sound.step hstep, traced.step sound hstep, kept.step sound hstep⟩

/-- What has become of the task of an intake: a message that has come from it is in one of the two
queues or in flight, or an attempt at one has succeeded. -/
def Accounts (s : Traffic) (k : Nat) (i : Intake) : Prop :=
  (∃ (j : Nat) (m : Broker.Message), s.ledger.ready[j]? = some (some k) ∧
      s.world.broker.ready[j]? = some m ∧ m.Descends i.thread.past) ∨
    (∃ (j : Nat) (m : Broker.Message), s.ledger.dead[j]? = some (some k) ∧
      s.world.broker.deadLetters[j]? = some m ∧ m.Descends i.thread.past) ∨
    ∃ h ∈ s.handlings, h.origin = some k ∧ h.delivery.message.Descends i.thread.past ∧
      (h.inFlight s.world.broker = true ∨ h.thread.past.HasSucceeded h.delivery.message)

theorem exists_of_mem_ledger {l : List (Option Nat)} {ms : List Broker.Message} {i : Intake}
    (traced : List.Forall₂ s.GoesBack l ms) (hi : s.intakes[k]? = some i) (hk : some k ∈ l) :
    ∃ (j : Nat) (m : Broker.Message), l[j]? = some (some k) ∧ ms[j]? = some m ∧
      m.Descends i.thread.past := by
  obtain ⟨j, hj, place⟩ := List.mem_iff_getElem.1 hk
  have hm : j < ms.length := traced.length_eq ▸ hj
  obtain ⟨i', hi', descends⟩ := traced.get hj hm k place
  obtain rfl : i = i' := Option.some.inj (hi.symm.trans hi')
  exact ⟨j, ms[j], by rw [List.getElem?_eq_getElem hj, place], List.getElem?_eq_getElem hm, descends⟩

/-- A task that has been accepted is in the queue, among the dead letters, in flight, or done; and
no delivery is ever acknowledged unless its task has succeeded or been published again before. -/
theorem accepted_task_kept {permits : Happening → Bool} (idle : start.Idle)
    (run : Reaches g x permits start s) :
    (∀ (k : Nat) (i : Intake), s.intakes[k]? = some i → i.isAccepted = true → s.Accounts k i) ∧
    ∀ h ∈ s.handlings, ∀ id older, h.thread.HasAsked (.settle id .ack) older →
      older.HasSucceeded h.delivery.message ∨ older.hasPublished = true := by
  obtain ⟨sound, traced, kept⟩ := kept_of_reaches idle run
  refine ⟨fun k i hi accepted => ?_, fun h hh id older asked => ?_⟩
  · have published := sound.standing_of_isAccepted (List.mem_of_getElem? hi) accepted
    rcases kept k i hi published with hk | hk | ⟨h, hh, ho, carries⟩
    · exact .inl (exists_of_mem_ledger traced.ready hi hk)
    · exact .inr (.inl (exists_of_mem_ledger traced.dead hi hk))
    · obtain ⟨i', hi', descends⟩ := traced.handled h hh k ho
      obtain rfl : i = i' := Option.some.inj (hi.symm.trans hi')
      refine .inr (.inr ⟨h, hh, ho, descends, ?_⟩)
      rcases carries with succeeded | ⟨open_, unsettled, -⟩
      · have holds := TaskHandler.stageHolds_of_kept (sound.handlings h hh).kept
        change HandlingStanding.StageHolds _ _ h.standing.stage at holds
        rw [succeeded] at holds
        exact .inr holds
      · have custody := sound.custody h hh
        unfold Handling.Custody at custody
        rw [if_neg (by simp [open_]), unsettled] at custody
        obtain ⟨c, hold⟩ := custody
        exact .inl (by simp [Handling.inFlight, hold])
  · obtain ⟨past, rest⟩ := sound.handlings h hh
    rcases asked with ⟨newer, a, hp⟩ | ⟨rfl, -, next, hr⟩
    · rw [hp] at past
      exact TaskHandler.before_ack past.split.2 past.split.1
    · rw [hr] at rest
      exact TaskHandler.before_ack past rest.1

/-- A worker that is cut off when it has posted a reply, but not yet acknowledged, does not lose the
task. -/
theorem accepted_task_kept_of_cut :
    ∃ s i, Reaches {} {} (fun _ => true) quiet s ∧ s.intakes[0]? = some i ∧
      i.isAccepted = true ∧ s.world.sent.length = 1 ∧ s.handlings.map (·.thread.alive) = [false] ∧
      s.world.broker.ready.map (·.redelivered) = [true] ∧ s.Accounts 0 i := by
  obtain ⟨s, run, hs⟩ := reaches_of_play? {} {} (fun _ => true) quiet
    (Move.arrive .greeting :: List.replicate 12 (Move.intake 0) ++ Move.take ::
      List.replicate 7 (Move.handling 0) ++ [Move.cut 0])
    (fun s => (s.intakes[0]?.any Intake.isAccepted) && s.world.sent.length == 1 &&
      s.handlings.map (·.thread.alive) == [false] &&
      s.world.broker.ready.map (·.redelivered) == [true])
    (by decide +kernel)
  simp only [Bool.and_eq_true, beq_iff_eq] at hs
  obtain ⟨⟨⟨accepted, sent⟩, cut⟩, back⟩ := hs
  obtain ⟨i, hi, accepted⟩ := (Option.any_eq_true ..).1 accepted
  have kept := accepted_task_kept ⟨rfl, rfl, rfl, rfl⟩ run
  exact ⟨s, i, run, hi, accepted, sent, cut, back, kept.1 0 i hi accepted⟩

end Traffic
end ReplyPipeline
