import ReplyPipeline.Proofs.CallRecords
import ReplyPipeline.Proofs.Journeys

/-!
# Settlements

A call settles its delivery once, as its outcome says, whatever fails. The workers count outcomes
and the broker counts messages, and neither reads the other's books; here both are counted from the
histories of the calls. So they agree after any number of calls that have come to their end
(`Traffic.settled_once_and_counted`).
-/
namespace ReplyPipeline

def Exchange.settlement? : Exchange → Option (Broker.DeliveryId × Broker.Settlement)
  | ⟨.settle id how, _⟩ => some (id, how)
  | _ => none

namespace TaskHandler

variable {x : TaskHandler} {d : Broker.Delivery} {e : Envelope} {past tried ending : History}
  {reply : Option String} {outcome : DeliveryOutcome}

theorem AttemptRecord.settlements (h : x.AttemptRecord e tried reply) :
    tried.filterMap Exchange.settlement? = [] := by
  cases h <;> rfl

theorem EndRecord.settlements (h : x.EndRecord d e reply ending outcome) :
    ending.filterMap Exchange.settlement? = [(d.id, outcome.settlement)] := by
  cases h <;> rfl

theorem DiscardRecord.settlements (h : x.DiscardRecord d ending) :
    ending.filterMap Exchange.settlement? = [(d.id, .reject)] := by
  cases h <;> rfl

theorem CallRecord.settlements (h : x.CallRecord d past outcome) :
    past.filterMap Exchange.settlement? = [(d.id, outcome.settlement)] := by
  cases h with
  | attempted _ attempt closing =>
    simp only [List.filterMap_append, closing.settlements, attempt.settlements]
    rfl
  | malformed _ closing =>
    simp only [List.filterMap_append, closing.settlements]
    rfl

theorem pushed_of_goes {n : UInt32} (goes : (x.handle d).Goes past (.done (.retried n))) :
    ∃ m e, past.pushed = [m] ∧ Envelope.ofBytes m.body = .ok e ∧ e.attempts = n := by
  obtain ⟨-, -, closes⟩ := goes.binds (x.account_handle d)
  rw [standing_account] at closes
  obtain ⟨task, taken, -, pushed, rfl, granted⟩ := closes
  obtain ⟨e, decoded, count, -⟩ := ofBytes_retried taken granted
  refine ⟨_, e, pushed, decoded, UInt32.toNat_inj.1 ?_⟩
  obtain ⟨next, one⟩ := RetryPolicy.saturatingSucc_of_shouldRetry granted
  change _ = (Envelope.saturatingSucc task.attempts).toNat
  rw [count, next, one]

end TaskHandler

/-- What a call with an outcome adds to the counters. -/
def WorkerCounts.of (outcome : DeliveryOutcome) : WorkerCounts :=
  .one .processed + .one outcome.counter

def WorkerCounts.ofAll (outcomes : List DeliveryOutcome) : WorkerCounts :=
  (outcomes.map .of).sum

@[simp] theorem WorkerCounts.ofAll_nil : ofAll [] = 0 := rfl

@[simp] theorem WorkerCounts.ofAll_cons (outcome : DeliveryOutcome)
    (outcomes : List DeliveryOutcome) :
    ofAll (outcome :: outcomes) = of outcome + ofAll outcomes := List.sum_cons

theorem WorkerCounts.processed_ofAll (outcomes : List DeliveryOutcome) :
    (ofAll outcomes).processed =
      (ofAll outcomes).succeeded + (ofAll outcomes).retried + (ofAll outcomes).deadLettered +
        (ofAll outcomes).malformed := by
  induction outcomes with
  | nil => rfl
  | cons outcome outcomes ih =>
    have single : (of outcome).processed =
        (of outcome).succeeded + (of outcome).retried + (of outcome).deadLettered +
          (of outcome).malformed := by
      cases outcome <;> rfl
    simp only [ofAll_cons, processed_add, succeeded_add, retried_add, deadLettered_add,
      malformed_add]
    omega

/-- What has been added agrees with what workers counted: as many publications as calls that ended
in one, and, if settlements work, as many messages acknowledged and made dead letters. -/
structure Totals.Agrees (t : Totals) (works : Prop) (counts : WorkerCounts) : Prop where
  stats : t.stats = counts
  published : t.published = counts.retried
  acked : works → t.acked = counts.succeeded + counts.retried
  dead : works → t.dead = counts.deadLettered + counts.malformed

namespace Totals.Agrees

variable {t t' : Totals} {works : Prop} {c c' : WorkerCounts}

theorem zero : Agrees 0 works 0 := ⟨rfl, rfl, fun _ => rfl, fun _ => rfl⟩

theorem add (h : t.Agrees works c) (h' : t'.Agrees works c') :
    (t + t').Agrees works (c + c') := by
  constructor
  · rw [stats_add, h.stats, h'.stats]
  · rw [published_add, h.published, h'.published, WorkerCounts.retried_add]
  · intro done
    rw [acked_add, h.acked done, h'.acked done, WorkerCounts.succeeded_add,
      WorkerCounts.retried_add]
    omega
  · intro done
    rw [dead_add, h.dead done, h'.dead done, WorkerCounts.deadLettered_add,
      WorkerCounts.malformed_add]
    omega

/-- The end of a call, with the attempt before it and the count at its beginning. -/
theorem of_end {outcome : DeliveryOutcome} {settled : Bool} {posted : Multiset PostedReply}
    (done : works → settled = true) :
    Agrees (.ofEnd outcome settled + { sent := posted, stats := .one .processed }) works
      (.of outcome) := by
  constructor
  · cases outcome <;> rfl
  · cases outcome <;> rfl
  · intro works
    rw [done works]
    cases outcome <;> rfl
  · intro works
    rw [done works]
    cases outcome <;> rfl

end Totals.Agrees

/-- What a call adds agrees with its outcome. -/
theorem TaskHandler.CallRecord.agrees {x : TaskHandler} {d : Broker.Delivery} {past : History}
    {outcome : DeliveryOutcome} (h : x.CallRecord d past outcome) {works : Prop}
    (settles : works → ∀ y ∈ past, y.settles = true) : past.effect.Agrees works (.of outcome) := by
  cases h with
  | attempted _ attempt closing =>
    obtain ⟨settled, effect, done⟩ := closing.effect_eq
    rw [History.effect_append, effect, attempt.effect_begun]
    exact .of_end fun h => done fun y hy => settles h y (List.mem_append_left _ hy)
  | malformed _ closing =>
    obtain ⟨settled, effect, done⟩ := closing.effect_eq
    rw [History.effect_append, effect]
    exact .of_end fun h => done fun y hy => settles h y (List.mem_append_left _ hy)

namespace Traffic

variable {g : Gateway} {x : TaskHandler} {permits : Happening → Bool} {start s : Traffic}

/-- What the calls that have come to their end add to the counters. -/
def counted (s : Traffic) : WorkerCounts := .ofAll (s.handlings.filterMap (·.thread.result?))

theorem agrees_of_ended (none : start.handlings = []) (run : Reaches g x permits start s)
    {h : Handling} (hh : h ∈ s.handlings) {outcome : DeliveryOutcome}
    (ended : h.thread.rest = .done outcome) {works : Prop}
    (settles : works → ∀ y ∈ h.thread.past, y.settles = true) :
    h.thread.past.effect.Agrees works (.of outcome) := by
  obtain ⟨past, same, record⟩ := callRecord_of_reaches none run hh ended
  rw [same] at settles ⊢
  rw [History.effect_cons, show Exchange.effect ⟨.drop h.delivery.id, ()⟩ = 0 from rfl, zero_add]
  exact record.agrees fun h y hy => settles h y (List.mem_cons_of_mem _ hy)

theorem agrees_of_all_ended (none : start.handlings = []) (run : Reaches g x permits start s)
    (ended : ∀ h ∈ s.handlings, ∃ outcome, h.thread.rest = .done outcome) {works : Prop}
    (settles : works → ∀ h ∈ s.handlings, ∀ y ∈ h.thread.past, y.settles = true) :
    (s.handlings.map fun h : Handling => h.thread.past.effect).sum.Agrees works s.counted := by
  unfold counted
  -- By induction on some of the calls, since the run is about all of them.
  have some_of_them {l : List Handling} (part : ∀ h ∈ l, h ∈ s.handlings) :
      (l.map fun h : Handling => h.thread.past.effect).sum.Agrees works
        (.ofAll (l.filterMap fun h => h.thread.result?)) := by
    induction l with
    | nil => exact .zero
    | cons h l ih =>
      obtain ⟨first, rest⟩ := List.forall_mem_cons.1 part
      obtain ⟨outcome, done⟩ := ended h first
      have result : h.thread.result? = some outcome := by rw [Thread.result?, done]
      rw [List.map_cons, List.sum_cons, List.filterMap_cons, result]
      refine .add ?_ (ih rest)
      exact agrees_of_ended none run first done fun works => settles works h first
  exact some_of_them fun _ hh => hh

/-- Whatever fails, a call asks once for the settlement of its delivery, to be acknowledged if it
was completed or published again and to be rejected otherwise; and if it was published again, one
message got into the queue, whose task has as many failed attempts as the outcome says. So, when all
calls of a run have come to their end, the counters of the workers have grown by what their outcomes
say, one of four by one for each that was begun; the broker has counted as many publications as
tasks were published again, apart from those of the gateway; and unless a settlement failed, it has
counted as many messages acknowledged and holds as many more dead letters as the outcomes say. -/
theorem settled_once_and_counted (x : TaskHandler) :
    (∀ d past outcome, (x.handle d).Goes past (.done outcome) →
      past.filterMap Exchange.settlement? = [(d.id, outcome.settlement)] ∧
      ∀ n, outcome = .retried n →
        ∃ m e, past.pushed = [m] ∧ Envelope.ofBytes m.body = .ok e ∧ e.attempts = n) ∧
    ∀ g permits start s, start.intakes = [] → start.handlings = [] →
      Reaches g x permits start s → (∀ h ∈ s.handlings, ∃ o, h.thread.rest = .done o) →
        s.world.stats = start.world.stats + s.counted ∧
        s.counted.processed = s.counted.succeeded + s.counted.retried + s.counted.deadLettered +
          s.counted.malformed ∧
        s.world.broker.published = start.world.broker.published + s.counted.retried +
          s.intakePublications ∧
        ((∀ h ∈ s.handlings, ∀ y ∈ h.thread.past, y.settles = true) →
          s.world.broker.acked =
            start.world.broker.acked + (s.counted.succeeded + s.counted.retried) ∧
          s.world.broker.deadLetters.length =
            start.world.broker.deadLetters.length +
              (s.counted.deadLettered + s.counted.malformed)) := by
  constructor
  · intro d past outcome goes
    refine ⟨(TaskHandler.callRecord_of_goes goes).settlements, ?_⟩
    rintro n rfl
    exact TaskHandler.pushed_of_goes goes
  · intro g permits start s intakes handlings run ended
    have calls := agrees_of_all_ended handlings run ended id
    have totals := totals_of_reaches intakes handlings run
    rw [effect_eq intakes handlings run] at totals
    refine ⟨?_, WorkerCounts.processed_ofAll _, ?_, fun works => ⟨?_, ?_⟩⟩
    · have stats := congrArg Totals.stats totals
      rw [Totals.stats_add, Totals.stats_add, calls.stats, zero_add] at stats
      exact stats
    · have published := congrArg Totals.published totals
      rw [Totals.published_add, Totals.published_add, calls.published] at published
      simp only [Record.totals, World.record] at published
      rw [published, counted]
      omega
    · have acked := congrArg Totals.acked totals
      rw [Totals.acked_add, Totals.acked_add, calls.acked works, zero_add] at acked
      exact acked
    · have dead := congrArg Totals.dead totals
      rw [Totals.dead_add, Totals.dead_add, calls.dead works, zero_add] at dead
      exact dead

/-- Octets that are no task, and behind them a task whose first attempt will fail. -/
def disturbed : Traffic where
  world := { quiet.world with
    script := [⟨none, fun _ => .failed .emptyReply⟩]
    broker := { ready := [⟨[], none, false⟩,
      .ofEnvelope (.plain .greeting 1 2 "hi" quiet.world.wallClock)] } }

theorem settled_once_and_counted_of_three_calls :
    ∃ s, Reaches {} {} (fun _ => true) disturbed s ∧
      s.world.stats = ⟨3, 1, 1, 0, 1⟩ ∧ s.world.broker.published = 1 ∧
      s.world.broker.acked = 2 ∧ s.world.broker.deadLetters.length = 1 := by
  obtain ⟨s, run, hs⟩ := reaches_of_play? {} {} (fun _ => true) disturbed
    (Move.take :: List.replicate 8 (Move.handling 0) ++
      Move.take :: List.replicate 5 (Move.handling 1) ++ Move.wait (5 * 10 ^ 9) ::
      List.replicate 9 (Move.handling 1) ++
      Move.take :: List.replicate 14 (Move.handling 2))
    (fun s => s.intakes.isEmpty &&
      s.handlings.map (·.thread.result?) == [some .malformed, some (.retried 1), some .completed] &&
      s.handlings.all fun h => h.thread.past.all Exchange.settles)
    (by decide +kernel)
  obtain ⟨hs, works⟩ := Bool.and_eq_true_iff.1 hs
  obtain ⟨alone, results⟩ := Bool.and_eq_true_iff.1 hs
  have results := beq_iff_eq.1 results
  have ended : ∀ h ∈ s.handlings, ∃ o, h.thread.rest = .done o := by
    intro h hh
    have result := List.mem_map_of_mem (f := fun h : Handling => h.thread.result?) hh
    rw [results] at result
    simp only [List.mem_cons, List.not_mem_nil, or_false] at result
    rcases result with done | done | done <;> exact ⟨_, Thread.rest_eq_of_result? done⟩
  have counted : s.counted = ⟨3, 1, 1, 0, 1⟩ := by
    have outcomes : s.handlings.filterMap (·.thread.result?) =
        (s.handlings.map (·.thread.result?)).filterMap id := by
      rw [List.filterMap_map]
      rfl
    rw [Traffic.counted, outcomes, results]
    rfl
  obtain ⟨stats, -, published, settled⟩ :=
    (settled_once_and_counted {}).2 {} (fun _ => true) disturbed s rfl rfl run ended
  obtain ⟨acked, dead⟩ := settled (by simpa using works)
  have none : s.intakes = [] := List.isEmpty_iff.1 alone
  rw [counted] at stats published acked dead
  rw [intakePublications, none] at published
  exact ⟨s, run, stats, published, acked, dead⟩

end Traffic
end ReplyPipeline
