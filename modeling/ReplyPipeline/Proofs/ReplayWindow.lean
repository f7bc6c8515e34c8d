import ReplyPipeline.Proofs.Chronicle
import ReplyPipeline.Proofs.Draining
import ReplyPipeline.Proofs.EventEffects
import ReplyPipeline.Proofs.MarkedLocks

/-!
# How long a replay is refused

An event is accepted, and workers go on with its task: they process it, publish it again after
failures, and pause in between. Until the task is completed or rejected none of them calls the store,
so a replay of the event finds it as it was left by the acceptance, and is refused as long as the
lock that was taken then lasts. Nobody prolongs it. With the standard settings three attempts that
run into their limit take longer than that, and a replay then publishes the task a second time
(`replays_not_all_refused`).
-/
namespace ReplyPipeline

namespace Exchange

def isMark : Exchange → Bool
  | ⟨.store (.set ..) _, _⟩ => true
  | _ => false

def isBurial : Exchange → Bool
  | ⟨.settle _ .reject, outcome⟩ => Except.isOk outcome
  | _ => false

end Exchange

/-- The task has been completed or rejected. -/
def History.isDecided (past : History) : Bool := past.any fun y => y.isMark || y.isBurial

namespace Traffic

/-- Nobody but the workers is at work, nothing is cut off, and settlements are done. -/
def working : Happening → Bool
  | .intruded => false
  | what => draining what

theorem draining_of_working {what : Happening} (h : working what = true) :
    draining what = true := by
  cases what with
  | intruded => cases h
  | _ => exact h

variable {g : Gateway} {x : TaskHandler} {w : World} {s s' : Traffic} {what : Happening}

theorem Reaches.draining (run : Reaches g x working (queued w) s) :
    Reaches g x draining (queued w) s := by
  induction run with
  | refl => exact .refl
  | step _ hp h ih => exact ih.step (draining_of_working hp) h

/-- A worker calls the store only when the task is completed or has been rejected. -/
theorem store_eq_of_answer {h : Handling} {r : PipelineRequest} {a : r.Answer} {m m' : Record}
    (hr : h.standing.allows x h.delivery r) (ha : m.Answers r a m')
    (settled : h.standing.settlement.all (·.2) = true)
    (undecided : History.isDecided (⟨r, a⟩ :: h.thread.past) = false) : m'.store = m.store := by
  have called := ha.store_eq
  cases r with
  | store call limit =>
    cases call with
    | set key value ttl => simp [History.isDecided, Exchange.isMark] at undecided
    | delete key =>
      obtain ⟨done, _, -, rejected, -⟩ := hr
      rw [rejected] at settled
      obtain rfl : done = true := settled
      obtain ⟨id, outcome, asked, answered⟩ :=
        TaskHandler.mem_of_settlement (x := x) (d := h.delivery) rejected
      have decided : History.isDecided (⟨.store (.delete key) limit, a⟩ :: h.thread.past) = true :=
        List.any_eq_true.2 ⟨_, List.mem_cons_of_mem _ asked, by simp [Exchange.isBurial, answered]⟩
      rw [decided] at undecided
      cases undecided
    | _ => exact hr.elim
  | _ => exact called

theorem Reaches.store_eq (run : Reaches g x working (queued w) s)
    (undecided : ∀ h ∈ s.handlings, h.thread.past.isDecided = false) :
    s.world.store = w.store := by
  induction run with
  | refl => rfl
  | @step s s' what run hp h ih =>
    have before := run.draining
    cases h with
    | arrive event => cases hp
    | take ht => exact ih fun h hh => undecided h (List.mem_append_left _ hh)
    | intake hl ht => rw [before.no_intakes] at hl; exact absurd hl (by simp)
    | @handling as bs h t w' what hl ht =>
      have hh : h ∈ s.handlings := by simp [hl]
      have mine : t.past.isDecided = false := undecided { h with thread := t } (by simp)
      have others (k : Handling) (hk : k ∈ as ++ bs) : k.thread.past.isDecided = false :=
        undecided k (mem_append_cons.2 (.inr hk))
      have earlier (own : h.thread.past.isDecided = false) :
          ∀ k ∈ s.handlings, k.thread.past.isDecided = false := by
        intro k hk
        rw [hl] at hk
        rcases mem_append_cons.1 hk with rfl | hk
        · exact own
        · exact others k hk
      cases before.sound.handling_advances hh ht with
      | asked past _ same =>
        rw [past] at mine
        exact (congrArg Record.store same).trans (ih (earlier mine))
      | answered hr ha past =>
        rw [past] at mine
        have own : h.thread.past.isDecided = false := (Bool.or_eq_false_iff.1 mine).2
        exact (store_eq_of_answer hr ha (before.drains.settled h hh) mine).trans (ih (earlier own))
    | crashIntake hl => rw [before.no_intakes] at hl; exact absurd hl (by simp)
    | crashHandling => cases hp
    | drift hd => exact (congrArg Record.store hd.2).trans (ih undecided)
    | intrude => cases hp

end Traffic

namespace Gateway

variable {g : Gateway} {w w' : World} {id : CorrelationId}

theorem holds_lock_iff (same : w'.store = g.locked id w) (later : w.now ≤ w'.now) :
    w'.Holds (g.idempotency.lockKey id) ↔ w'.now < w.now + g.idempotency.lockTtl.nanos := by
  rw [World.holds_iff, same, locked, Store.Memory.purge_insert, Store.Memory.purge_purge _ later]
  split <;> simp [*]

theorem not_holds_of_locked {key : String} (same : w'.store = g.locked id w)
    (later : w.now ≤ w'.now) (other : key ≠ g.idempotency.lockKey id) (absent : ¬ w.Holds key) :
    ¬ w'.Holds key := by
  have lacks : (w.store.purge w.now).Lacks key w'.now := by
    rw [World.holds_iff, Option.not_isSome_iff_eq_none] at absent
    exact (Store.Memory.lacks_of_find?_eq_none absent).mono later
  have gone : (g.locked id w).Lacks key w'.now := lacks.insert_ne other.symm
  rw [World.Holds, same, gone.peek_eq_none]
  exact Bool.false_ne_true

end Gateway

namespace Traffic

variable {g : Gateway} {x : TaskHandler} {w w₁ : World} {s : Traffic} {event : Event}
  {id : CorrelationId} {tenant conversation : Int64}

/-- A replay of an accepted event whose task is neither completed nor rejected yet is refused as long
as the lock of its acceptance lasts, and no longer: after that the task is published once more. -/
theorem replay_refused_until_lock_expires (answers : w.StoreAnswers)
    (accepted : (g.handle event).carryOut (World.ask 0) w =
      some (.accepted id tenant conversation, w₁))
    (run : Reaches g x working (queued w₁) s)
    (undecided : ∀ h ∈ s.handlings, h.thread.past.isDecided = false)
    (still : s.world.StoreAnswers) (enqueues : s.world.Enqueues 0 g.enqueueLimit) :
    ∃ a w', (g.handle event).carryOut (World.ask 0) s.world = some (a, w') ∧
      (s.world.now < w.now + g.idempotency.lockTtl.nanos →
        a = .inProgress id ∧ w'.broker = s.world.broker) ∧
      (w.now + g.idempotency.lockTtl.nanos ≤ s.world.now →
        a = .accepted id tenant conversation ∧
          w'.broker.ready.length = s.world.broker.ready.length + 1) := by
  obtain ⟨a₁, w₁', first, effect⟩ := g.exists_effect 0 event answers
  obtain ⟨rfl, rfl⟩ := Prod.mk.inj (Option.some.inj (first.symm.trans accepted))
  obtain ⟨passes, told, rfl, rfl, outcome⟩ := effect.of_accepted
  obtain ⟨unmarked, free, -⟩ := outcome.accepted.1 rfl
  obtain ⟨m, -, rfl⟩ := outcome.done rfl
  have same : s.world.store = g.locked id w :=
    (run.store_eq undecided).trans (g.locked_eq free).symm
  have later : w.now ≤ s.world.now :=
    Nat.le_trans (Nat.le_trans (Nat.le_add_right _ _) (Nat.le_add_right _ _)) run.now_le
  have lock := Gateway.holds_lock_iff same later
  have unmarked : ¬ s.world.Holds (g.idempotency.markerKey id) :=
    Gateway.not_holds_of_locked same later (g.idempotency.lockKey_ne_markerKey id).symm unmarked
  obtain ⟨a, w', second, effect⟩ := g.exists_effect 0 event still
  unfold Gateway.Effect at effect
  rw [passes, told] at effect
  change g.Outcome 0 event id s.world a w' at effect
  refine ⟨a, w', second, fun young => ?_, fun old => ?_⟩
  · have refused := effect.inProgress.2 ⟨unmarked, lock.2 young⟩
    exact ⟨refused, by rw [effect.kept (.inr refused)]⟩
  · have again := effect.accepted.2 ⟨unmarked, fun held => Nat.not_lt.2 old (lock.1 held), enqueues⟩
    obtain ⟨m, -, rfl⟩ := effect.done again
    exact ⟨again, by simp⟩

/-- A processing function that takes longer than it is let. -/
def slowScript : List Turn := List.replicate 3 ⟨some (Span.seconds 200), fun _ => .reply "ok"⟩

def slowWorld : World := { wallClock := ⟨2026, 1, 1, 0, 0, 0, 0⟩, script := slowScript }

/-- One attempt that runs into its limit and is to be followed by another one after a pause. -/
def failedAttempt (k : Nat) (pause : Span) : List Move :=
  Move.take :: List.replicate 3 (Move.handling k) ++ Move.wait (120 * 10 ^ 9) ::
    List.replicate 2 (Move.handling k) ++ Move.wait pause.nanos ::
    List.replicate 9 (Move.handling k)

/-- Two attempts have failed and the third is under way when the lock expires: the replay is taken
for a new event. -/
theorem replay_accepted_during_third_attempt :
    ∃ w₁ s, (Gateway.handle {} .greeting).carryOut (World.ask 0) slowWorld =
        some (.accepted .greeting 0 0, w₁) ∧
      Reaches {} {} working (queued w₁) s ∧ s.handlings.countP Handling.isProcessing = 1 ∧
      ∃ w', (Gateway.handle {} .greeting).carryOut (World.ask 0) s.world =
          some (.accepted .greeting 0 0, w') ∧
        w'.broker.ready.length = s.world.broker.ready.length + 1 := by
  have played : ((Gateway.handle {} .greeting).carryOut (World.ask 0) slowWorld).any
      (fun r => r.1 == .accepted .greeting 0 0 && ((queued r.2).play? {} {} working
        (failedAttempt 0 (Span.seconds 5) ++ failedAttempt 1 (Span.seconds 10) ++ Move.take ::
          List.replicate 3 (Move.handling 2) ++ [Move.wait (45 * 10 ^ 9)])).any fun s =>
        s.world.now == 300 * 10 ^ 9 && s.handlings.countP Handling.isProcessing == 1 &&
          s.handlings.all (!·.thread.past.isDecided) &&
          decide (s.world.storeFailing = false ∧ World.duration s.world.storeLatency = 0 ∧
            (s.world.useFault .topology).1 = false ∧ (s.world.useFault .publish).1 = false ∧
            s.world.publishFailing = false ∧ World.duration s.world.publishLatency = 0)) = true := by
    decide +kernel
  obtain ⟨⟨a, w₁⟩, accepted, played⟩ := (Option.any_eq_true ..).1 played
  obtain ⟨rfl, played⟩ := (Bool.and_eq_true_iff.1 played).imp_left beq_iff_eq.1
  obtain ⟨s, hs, facts⟩ := (Option.any_eq_true ..).1 played
  simp only [Bool.and_eq_true, beq_iff_eq, decide_eq_true_eq, List.all_eq_true,
    Bool.not_eq_true'] at facts
  obtain ⟨⟨⟨time, busy⟩, undecided⟩, up, prompt, declared, confirmed, delivered, timely⟩ := facts
  have run : Reaches {} {} working (queued w₁) s := .of_play? .refl hs
  obtain ⟨a, w', second, -, again⟩ := replay_refused_until_lock_expires ⟨rfl, by decide⟩ accepted
    run undecided ⟨up, prompt⟩ ⟨declared, confirmed, delivered, by rw [timely]; decide⟩
  obtain ⟨rfl, more⟩ := again (by rw [time]; decide +kernel)
  exact ⟨w₁, s, accepted, run, busy, w', second, more⟩

end Traffic

namespace Simulation

/-- A worker with the standard settings is at work, and an event comes a second after it began; what
it is answered and what there is then. -/
def submitted (script : List Turn) (sinkFailures : Nat) : Option GatewayAnswer × Simulation :=
  let world : World := { wallClock := ⟨2026, 1, 1, 0, 0, 0, 0⟩, script, sinkFailures }
  let started := (Simulation.mk world []).startWorker {} 0
  (started.run (Action.pause (Span.seconds 1))).2.run (Gateway.handle {} .greeting)

/-- The lock does not cover all attempts at a task: a worker is still trying to complete it when a
replay of its event is accepted and published. -/
theorem replays_not_all_refused :
    ¬ ∀ (script : List Turn) (sinkFailures : Nat) (pause : Span),
      (submitted script sinkFailures).1 = some (.accepted .greeting 0 0) →
      let later := ((submitted script sinkFailures).2.run (Action.pause pause)).2
      later.world.stats.succeeded = 0 → later.world.stats.deadLettered = 0 →
      let replay := later.run (Gateway.handle {} .greeting)
      (replay.1 = some (.inProgress .greeting) ∨ replay.1 = some (.duplicate .greeting)) ∧
        replay.2.world.broker.published = later.world.broker.published := by
  intro all
  have facts : (submitted Traffic.slowScript 0).1 = some (.accepted .greeting 0 0) ∧
      let later := ((submitted Traffic.slowScript 0).2.run (Action.pause (Span.seconds 300))).2
      (later.world.stats.succeeded = 0 ∧ later.world.stats.deadLettered = 0) ∧
        (later.run (Gateway.handle {} .greeting)).1 = some (.accepted .greeting 0 0) := by
    decide +kernel
  obtain ⟨accepted, ⟨uncompleted, unburied⟩, again⟩ := facts
  obtain ⟨refused | refused, -⟩ :=
    all Traffic.slowScript 0 (Span.seconds 300) accepted uncompleted unburied
  · rw [again] at refused
    cases refused
  · rw [again] at refused
    cases refused

end Simulation
end ReplyPipeline
