import ReplyPipeline.Proofs.Draining

/-!
# A queue is emptied

A queue that is being drained never comes to a halt before it is empty and all calls are done: a
call can be begun as long as a message waits, and a call that is not done can make a step as soon as
enough time has passed, whatever else the surroundings do. The steps are counted by `effort`, which
is bounded because the calls are, and because each of them makes a bounded number of requests.
-/
namespace ReplyPipeline

/-- Every request can be answered in some way. -/
theorem PipelineRequest.nonempty_answer (r : PipelineRequest) : Nonempty r.Answer := by
  cases r with
  | now => exact ⟨(0 : Nat)⟩
  | wallClock => exact ⟨(⟨0, 1, 1, 0, 0, 0, 0⟩ : Instant)⟩
  | store call limit => exact ⟨Except.error (.timeout Span.zero)⟩
  | declareTopology deadline => exact ⟨none⟩
  | publish e deadline => exact ⟨none⟩
  | brokerHealthy => exact ⟨true⟩
  | process e limit => exact ⟨ProcessingOutcome.tooLate⟩
  | reply => exact ⟨Except.ok ()⟩
  | settle d how => exact ⟨Except.ok ()⟩
  | consume => exact ⟨Except.ok (0 : Nat)⟩
  | next c stop limit => exact ⟨Arrival.ended⟩
  | isStopped stop => exact ⟨true⟩
  | pauseUnlessStopped s stop => exact ⟨true⟩
  | pause s => exact ⟨()⟩
  | tally c => exact ⟨()⟩
  | drop d => exact ⟨()⟩
  | leave c => exact ⟨()⟩

namespace World

variable {w₀ w : World}

/-- No settlement is made to fail. -/
def settles (w : World) : Bool := !(w.useFault .ack).1 && !(w.useFault .reject).1

theorem settle_of_settles (h : w.settles = true) {d : Broker.DeliveryId} {hold : Broker.Held}
    (held : w.broker.held.lookup d = some hold) (unsettled : hold.settled = false)
    (how : Broker.Settlement) : (w.settle d how).1 = .ok () := by
  obtain ⟨acked, rejected⟩ := Bool.and_eq_true_iff.1 h
  have done := (Broker.Memory.settle_of_open how held unsettled).1
  unfold settle
  cases how with
  | ack =>
    simp only
    rw [useFault_of_false (by simpa using acked)]
    exact done
  | reject =>
    simp only
    rw [useFault_of_false (by simpa using rejected)]
    exact done

theorem exists_poll_taking {α : Type} (w₀ : World) (time : Nat) (deadline : Option Moment)
    (answer late : World → α × World) :
    ∃ t, ∀ w : World, t ≤ w.now →
      ∃ a w', (w₀.taking time deadline answer late).poll w = some (a, w') := by
  unfold taking
  split
  · exact ⟨0, fun w _ => ⟨_, _, rfl⟩⟩
  · split
    · exact ⟨w₀.now + time, fun w ht => ⟨_, _, if_pos ht⟩⟩
    · split
      · exact ⟨w₀.now + time, fun w ht => ⟨_, _, if_pos ht⟩⟩
      · exact ⟨_, fun w ht => ⟨_, _, if_pos ht⟩⟩

/-- Every request but the one for a next message is answered as soon as enough time has passed. -/
theorem exists_poll (w₀ : World) {r : PipelineRequest}
    (other : ∀ c stop limit, r ≠ .next c stop limit) :
    ∃ t, ∀ w : World, t ≤ w.now → ∃ a w', (w₀.begin r).2.poll w = some (a, w') := by
  cases r with
  | store c limit => exact exists_poll_taking ..
  | process e limit => exact exists_poll_taking ..
  | pause s => exact exists_poll_taking ..
  | next c stop limit => exact absurd rfl (other c stop limit)
  | publish e deadline =>
    simp only [begin, publish]
    split
    · exact ⟨0, fun w _ => ⟨_, _, rfl⟩⟩
    · exact exists_poll_taking ..
  | pauseUnlessStopped s stop =>
    refine ⟨w₀.now + duration s, fun w ht => ?_⟩
    simp only [begin, pauseUnlessStopped]
    split
    · exact ⟨_, _, rfl⟩
    · exact ⟨_, _, rfl⟩
  | _ => exact ⟨0, fun w _ => ⟨_, _, rfl⟩⟩

end World

/-- A step of what is being drained: a call is begun, or goes on. -/
def Happening.isWork : Happening → Bool
  | .taken => true
  | .asked _ => true
  | .answered _ => true
  | _ => false

namespace Thread

variable {α : Type} {t t' : Thread α} {w w' : World} {what : Happening}

/-- How many steps a program has made. -/
def effort (t : Thread α) : Nat := 2 * t.past.length + t.asked.isSome.toNat

theorem Step.effort_eq (h : t.Step w what t' w') : t'.effort = t.effort + 1 := by
  cases h with
  | ask => rfl
  | answer hp => exact Nat.mul_add_one 2 _

/-- A program that is not done can make its next request, or waits on it and goes on when there is
an answer. -/
theorem exists_step_of_undone (alive : t.alive = true) (undone : t.result? = none) :
    ∃ r next, t.rest = .call r next ∧
      ((∀ w, t.Step w (.asked r) { t with asked := some w } (w.begin r).1) ∨
      ∃ w₀ : World, ∀ a w w', (w₀.begin r).2.poll w = some (a, w') →
        t.Step w (.answered ⟨r, a⟩) ⟨next a, ⟨r, a⟩ :: t.past, none, true⟩ w') := by
  obtain ⟨rest, past, asked, living⟩ := t
  cases alive
  cases rest with
  | done a => cases undone
  | call r next =>
    refine ⟨r, next, rfl, ?_⟩
    cases asked with
    | none => exact .inl fun w => .ask
    | some w₀ => exact .inr ⟨w₀, fun a w w' hp => .answer hp⟩

end Thread

namespace TaskHandler

theorem length_le_of_binds {x : TaskHandler} {d : Broker.Delivery} {past : History}
    {p : Action DeliveryOutcome} (h : (x.account d).Binds (x.Ends d) past p) :
    past.length ≤ requestBound := by
  induction p generalizing past with
  | done outcome => exact h.1
  | call r next ih =>
    obtain ⟨a⟩ := PipelineRequest.nonempty_answer r
    exact Nat.le_of_succ_le (ih a (h.2 a))

end TaskHandler

namespace Traffic

/-- How many steps the calls have made, with the step by which each was begun. -/
def effort (s : Traffic) : Nat := (s.handlings.map fun h => h.thread.effort + 1).sum

/-- Nothing waits, and all calls are done. -/
def isDrained (s : Traffic) : Bool :=
  s.world.broker.ready.isEmpty && s.handlings.all (·.thread.result?.isSome)

variable {g : Gateway} {x : TaskHandler} {w : World} {s s' : Traffic} {what : Happening}

theorem Step.effort_eq (h : Step g x s what s') (none : s.intakes = [])
    (work : what.isWork = true) : s'.effort = s.effort + 1 := by
  cases h with
  | take ht => simp [effort, Thread.effort]
  | intake hl ht => rw [none] at hl; exact absurd hl (by simp)
  | handling hl ht =>
    have one := ht.effort_eq
    simp only [effort, hl, List.map_append, List.map_cons, List.sum_append, List.sum_cons, one]
    omega
  | _ => cases work

theorem effort_le (short : ∀ h ∈ s.handlings, h.thread.past.length ≤ TaskHandler.requestBound) :
    s.effort ≤ s.handlings.length * (2 * TaskHandler.requestBound + 2) := by
  unfold effort
  rw [← List.length_map (f := fun h : Handling => h.thread.effort + 1), ← smul_eq_mul]
  refine List.sum_le_card_nsmul _ _ fun n hn => ?_
  obtain ⟨h, hh, rfl⟩ := List.mem_map.1 hn
  have asked := Bool.toNat_le h.thread.asked.isSome
  have past := short h hh
  unfold Thread.effort
  omega

/-- What is not drained yet can go on: once enough time has passed a call can be begun or can make
a step, however the surroundings have changed, as long as they let settlements be done. -/
def GoesOn (g : Gateway) (x : TaskHandler) (s : Traffic) : Prop :=
  ∃ t, ∀ w, s.world.Drifts w → t ≤ w.now → w.settles = true →
    ∃ what s', what.isWork = true ∧ draining what = true ∧ Step g x { s with world := w } what s'

theorem Sound.answer_permitted (sound : s.Sound g x) {h : Handling} (hh : h ∈ s.handlings)
    (alive : h.thread.alive = true) {r : PipelineRequest}
    (allowed : h.standing.allows x h.delivery r) {w₀ w' w'' : World} {a : r.Answer}
    (same : w'.broker = s.world.broker) (settles : w'.settles = true)
    (hp : (w₀.begin r).2.poll w' = some (a, w'')) : draining (.answered ⟨r, a⟩) = true := by
  cases r with
  | settle id how =>
    obtain ⟨rfl, fresh⟩ := HandlingStanding.settlement_of_allows allowed
    obtain ⟨c, hold⟩ := (sound.custody h hh).held (HandlingStanding.gone_of_allows allowed) alive
    rw [← same] at hold
    have outcome : (w'.settle h.delivery.id how).1 = a := congrArg Prod.fst (Option.some.inj hp)
    have done := World.settle_of_settles settles hold (HandlingStanding.isSettled_of_none fresh) how
    rw [← outcome, done]
    rfl
  | _ => rfl

theorem Drains.goesOn (hs : s.Drains x w) (sound : s.Sound g x)
    (unfinished : s.isDrained = false) : s.GoesOn g x := by
  by_cases waits : s.world.broker.ready = []
  · obtain ⟨h, hh, undone⟩ : ∃ h ∈ s.handlings, h.thread.result? = none := by
      simpa [isDrained, waits] using unfinished
    obtain ⟨as, bs, hl⟩ := List.append_of_mem hh
    have alive := hs.alive h hh
    obtain ⟨r, next, rest, asks | ⟨w₀, answered⟩⟩ := Thread.exists_step_of_undone alive undone
    · exact ⟨0, fun w' _ _ _ =>
        ⟨.asked r, _, rfl, rfl, Step.handling (s := { s with world := w' }) hl (asks w')⟩⟩
    · have allowed : h.standing.allows x h.delivery r := by
        have binds := (sound.handlings h hh).rest
        rw [rest] at binds
        exact binds.1
      -- A worker that handles a delivery never asks for the next one.
      obtain ⟨t, polled⟩ := w₀.exists_poll (r := r) fun c stop limit heq => by
        rw [heq] at allowed
        exact allowed
      refine ⟨t, fun w' drifts ht settles => ?_⟩
      obtain ⟨a, w'', hp⟩ := polled w' ht
      have same : w'.broker = s.world.broker := congrArg Record.broker drifts.2
      exact ⟨.answered ⟨r, a⟩, _, rfl, sound.answer_permitted hh alive allowed same settles hp,
        Step.handling (s := { s with world := w' }) hl (answered a w' w'' hp)⟩
  · obtain ⟨d, b, ht⟩ := Broker.Memory.exists_take none waits
    refine ⟨0, fun w' drifts _ _ => ?_⟩
    have same : w'.broker = s.world.broker := congrArg Record.broker drifts.2
    rw [← same] at ht
    exact ⟨_, _, rfl, rfl, Step.take (s := { s with world := w' }) ht⟩

theorem Reaches.trans {permits : Happening → Bool} {start : Traffic}
    (h : Reaches g x permits start s) (h' : Reaches g x permits s s') :
    Reaches g x permits start s' := by
  induction h' with
  | refl => exact h
  | step _ hp hstep ih => exact ih.step hp hstep

/-- No call makes more requests than the bound, at any time. -/
theorem Reaches.past_le (run : Reaches g x draining (queued w) s) :
    ∀ h ∈ s.handlings, h.thread.past.length ≤ TaskHandler.requestBound := by
  intro h hh
  have rest := (keeps_of_reaches x.account_serve rfl run h hh).rest
  rw [TaskHandler.standing_account] at rest
  exact TaskHandler.length_le_of_binds rest

theorem Reaches.effort_le (run : Reaches g x draining (queued w) s) :
    s.effort ≤ (w.broker.ready.map x.tries).sum * (2 * TaskHandler.requestBound + 2) :=
  (Traffic.effort_le run.past_le).trans (Nat.mul_le_mul_right _ run.drains.length_le)

/-- The queue can always be drained from where it is. -/
theorem Reaches.exists_drained (run : Reaches g x draining (queued w) s) :
    ∃ s', Reaches g x draining s s' ∧ s'.isDrained = true := by
  -- by induction on the number of steps that are left to be made
  generalize left : (w.broker.ready.map x.tries).sum * (2 * TaskHandler.requestBound + 2) - s.effort
    = n
  induction n using Nat.strong_induction_on generalizing s with
  | _ n ih =>
    cases unfinished : s.isDrained with
    | true => exact ⟨s, .refl, unfinished⟩
    | false =>
      obtain ⟨t, goesOn⟩ := run.drains.goesOn run.sound unfinished
      have drifts : s.world.Drifts { s.world with now := max s.world.now t, faults := [] } :=
        ⟨Nat.le_max_left .., rfl⟩
      obtain ⟨what, s', work, hp, hstep⟩ := goesOn _ drifts (Nat.le_max_right ..) rfl
      have next : Reaches g x draining s s' := (Reaches.refl.step rfl (.drift drifts)).step hp hstep
      have more := hstep.effort_eq run.no_intakes work
      change s'.effort = s.effort + 1 at more
      have bound := (run.trans next).effort_le
      obtain ⟨end_, rest, drained⟩ := ih _ (by omega) (run.trans next) rfl
      exact ⟨end_, next.trans rest, drained⟩

end Traffic
end ReplyPipeline
