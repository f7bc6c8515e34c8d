import ReplyPipeline.Proofs.ReplayWindow
import ReplyPipeline.Proofs.Settlements

/-!
# Posted replies and markers

A call is completed if and only if its octets are a task, the processing function replied in time,
and the sink took the reply where the mode posts it. Only then there is something in the sink, and
only then the marker is set, after the reply and before the delivery is acknowledged. What the sink
holds after a run is what the calls have posted (`Traffic.replies_posted_by_completed_calls`).
-/
namespace ReplyPipeline

def PipelineRequest.isOfAttempt : PipelineRequest → Bool
  | .process .. => true
  | .reply .. => true
  | _ => false

theorem History.eq_false_of_any {p : Exchange → Bool} {ys : History} (h : ys.any p = false) :
    ∀ y ∈ ys, p y = false :=
  fun y hy => Bool.eq_false_iff.2 (List.any_eq_false.1 h y hy)

namespace TaskHandler

/-- The processing function has replied to a task, within its limit, and the sink has taken the
reply if the mode posts it. -/
def HasReplied (x : TaskHandler) (e : Envelope) (text : String) (past : History) : Prop :=
  (⟨.process e x.processingLimit, ProcessingOutcome.reply text⟩ : Exchange) ∈ past ∧
    ∀ isPrivate, e.responseMode.conclusion.1 = some isPrivate →
      (⟨.reply e.tenant e.conversation text isPrivate, Except.ok ()⟩ : Exchange) ∈ past

/-- What a call has to show for its outcome. -/
structure RepliesOnce (x : TaskHandler) (d : Broker.Delivery) (past : History)
    (outcome : DeliveryOutcome) : Prop where
  completed_iff : outcome = .completed ↔
    ∃ e text, Envelope.ofBytes d.message.body = .ok e ∧ x.HasReplied e text past
  /-- The reply comes first, then the marker, then the acknowledgement. -/
  completed : outcome = .completed →
    ∃ e text older marked acked, Envelope.ofBytes d.message.body = .ok e ∧
      past = ⟨.tally .succeeded, ()⟩ :: ⟨.settle d.id .ack, acked⟩ ::
        ⟨.store (.set (x.idempotency.markerKey e.correlationId) e.responseMode.conclusion.2
          x.idempotency.markerTtl) (some x.idempotency.limit), marked⟩ :: older ∧
      x.HasReplied e text older ∧ (∀ y ∈ older, y.isMark = false ∧ y.settlement? = none) ∧
      past.effect.sent = e.posts (some text)
  not_completed : outcome ≠ .completed → past.effect.sent = 0 ∧ ∀ y ∈ past, y.isMark = false

variable {x : TaskHandler} {d : Broker.Delivery} {e : Envelope} {past tried ending : History}
  {reply : Option String} {outcome : DeliveryOutcome} {text : String}

theorem AttemptRecord.isOfAttempt (h : x.AttemptRecord e tried reply) :
    ∀ y ∈ tried, y.request.isOfAttempt = true :=
  List.all_eq_true.1 (by cases h <;> rfl)

theorem EndRecord.isOfAttempt (h : x.EndRecord d e reply ending outcome) :
    ∀ y ∈ ending, y.request.isOfAttempt = false :=
  History.eq_false_of_any (by cases h <;> rfl)

theorem AttemptRecord.hasReplied_iff (h : x.AttemptRecord e tried reply) :
    x.HasReplied e text tried ↔ reply = some text := by
  unfold HasReplied
  rw [ResponseMode.conclusion_eq]
  cases h with
  | unmade failed =>
    refine ⟨fun ⟨made, _⟩ => ?_, nofun⟩
    cases List.mem_singleton.1 made
    exact absurd rfl (failed text)
  | kept mode =>
    constructor
    · rintro ⟨made, -⟩
      cases List.mem_singleton.1 made
      rfl
    · rintro ⟨⟩
      exact ⟨List.mem_singleton_self _, by simp [mode]⟩
  | @posted _ isPrivate mode =>
    constructor
    · rintro ⟨made, -⟩
      cases List.mem_singleton.1 ((List.mem_cons.1 made).resolve_left nofun)
      rfl
    · rintro ⟨⟩
      refine ⟨List.mem_cons_of_mem _ (List.mem_singleton_self _), fun p hp => ?_⟩
      obtain rfl : isPrivate = p := Option.some.inj (mode.symm.trans hp)
      exact List.mem_cons_self
  | @refused _ isPrivate _ mode =>
    refine ⟨fun ⟨_, taken⟩ => ?_, nofun⟩
    rcases List.mem_cons.1 (taken isPrivate mode) with same | other
    · cases same
    · cases List.mem_singleton.1 other

/-- Before and after the attempt no reply is made or posted. -/
theorem hasReplied_around {newer older : History}
    (after : ∀ y ∈ newer, y.request.isOfAttempt = false)
    (before : ∀ y ∈ older, y.request.isOfAttempt = false) :
    x.HasReplied e text (newer ++ (tried ++ older)) ↔ x.HasReplied e text tried := by
  have inside {y : Exchange} (own : y.request.isOfAttempt = true) :
      y ∈ newer ++ (tried ++ older) ↔ y ∈ tried := by
    rw [List.mem_append, List.mem_append]
    constructor
    · rintro (there | here | there)
      · cases own.symm.trans (after y there)
      · exact here
      · cases own.symm.trans (before y there)
    · exact fun here => .inr (.inl here)
  unfold HasReplied
  rw [inside rfl]
  refine and_congr_right fun _ => forall_congr' fun isPrivate => ?_
  rw [inside rfl]

theorem EndRecord.completed_iff (h : x.EndRecord d e reply ending outcome) :
    outcome = .completed ↔ ∃ text, reply = some text := by
  cases h with
  | completed => exact ⟨fun _ => ⟨_, rfl⟩, fun _ => rfl⟩
  | _ => exact ⟨nofun, fun ⟨_, h⟩ => nomatch h⟩

/-- A call is completed if and only if there is a reply, which was taken if it was to be posted. -/
theorem CallRecord.completed_iff (h : x.CallRecord d past outcome) :
    outcome = .completed ↔
      ∃ e text, Envelope.ofBytes d.message.body = .ok e ∧ x.HasReplied e text past := by
  cases h with
  | @attempted e tried ending reply _ decoded attempt closing =>
    have around {text : String} :
        x.HasReplied e text (ending ++ (tried ++ [⟨.tally .processed, ()⟩])) ↔
          reply = some text :=
      (hasReplied_around closing.isOfAttempt (List.forall_mem_singleton.2 rfl)).trans
        attempt.hasReplied_iff
    rw [closing.completed_iff]
    constructor
    · rintro ⟨text, made⟩
      exact ⟨e, text, decoded, around.2 made⟩
    · rintro ⟨task, text, taken, made⟩
      obtain rfl : e = task := Except.ok.inj (decoded.symm.trans taken)
      exact ⟨text, around.1 made⟩
  | malformed undecoded _ =>
    refine ⟨nofun, ?_⟩
    rintro ⟨task, _, taken, -⟩
    cases undecoded.symm.trans taken

theorem AttemptRecord.quiet (h : x.AttemptRecord e tried reply) :
    ∀ y ∈ tried ++ [⟨.tally .processed, ()⟩], y.isMark = false ∧ y.settlement? = none := by
  refine List.forall_mem_append.2 ⟨fun y hy => ?_, List.forall_mem_singleton.2 ⟨rfl, rfl⟩⟩
  obtain ⟨r, a⟩ := y
  have own := h.isOfAttempt _ hy
  cases r <;> first | exact ⟨rfl, rfl⟩ | cases own

theorem EndRecord.isMark_of_none (h : x.EndRecord d e none ending outcome) :
    ∀ y ∈ ending, y.isMark = false :=
  History.eq_false_of_any (by cases h <;> rfl)

theorem DiscardRecord.isMark (h : x.DiscardRecord d ending) : ∀ y ∈ ending, y.isMark = false :=
  History.eq_false_of_any (by cases h <;> rfl)

theorem EndRecord.sent_eq (closing : x.EndRecord d e reply ending outcome)
    (attempt : x.AttemptRecord e tried reply) :
    (History.effect (ending ++ (tried ++ [⟨.tally .processed, ()⟩]))).sent = e.posts reply := by
  obtain ⟨settled, effect, -⟩ := closing.effect_eq
  rw [History.effect_append, effect, attempt.effect_begun]
  exact zero_add _

/-- A call has to show what its outcome says. -/
theorem CallRecord.repliesOnce (h : x.CallRecord d past outcome) :
    x.RepliesOnce d past outcome := by
  refine ⟨h.completed_iff, ?_, ?_⟩
  · rintro rfl
    cases h with
    | @attempted e tried _ _ _ decoded attempt closing =>
      have sent := closing.sent_eq attempt
      cases closing with
      | @completed text marked acked =>
        have replied : x.HasReplied e text ([] ++ (tried ++ [⟨.tally .processed, ()⟩])) :=
          (hasReplied_around (by simp) (List.forall_mem_singleton.2 rfl)).2
            (attempt.hasReplied_iff.2 rfl)
        refine ⟨e, text, _, marked, acked, decoded, ?_, replied, attempt.quiet, sent⟩
        rw [ResponseMode.conclusion_eq]
        rfl
  · intro other
    cases h with
    | @attempted e tried ending reply _ _ attempt closing =>
      obtain rfl : reply = none := by
        rw [Option.eq_none_iff_forall_ne_some]
        exact fun text made => other (closing.completed_iff.2 ⟨text, made⟩)
      refine ⟨closing.sent_eq attempt, ?_⟩
      refine List.forall_mem_append.2 ⟨closing.isMark_of_none, fun y hy => ?_⟩
      exact (attempt.quiet y hy).1
    | malformed _ closing =>
      obtain ⟨settled, effect, -⟩ := closing.effect_eq
      refine ⟨?_, List.forall_mem_append.2 ⟨closing.isMark, ?_⟩⟩
      · rw [History.effect_append, effect]
        rfl
      · exact List.forall_mem_singleton.2 rfl

end TaskHandler

/-- The turn of the processing function that comes next. -/
def World.turn (w : World) : Turn := w.script.head?.getD { finish := fun _ => .reply "ok" }

def Turn.time (t : Turn) : Nat := (t.wait.map World.duration).getD 0

theorem World.poll_taking_limit {α : Type} {w₀ w : World} {time : Nat} {limit : Option Span}
    {answer late : World → α × World} {p : α × World}
    (polled : (w₀.taking time (w₀.deadline limit) answer late).poll w = some p) :
    p = if limit.all fun l => time ≤ duration l then answer w else late w := by
  unfold taking at polled
  split at polled
  next still =>
    have within : (limit.all fun l => time ≤ duration l) = true := by simp [still]
    rw [if_pos within]
    exact (Option.some.inj polled).symm
  next later =>
    cases limit with
    | none =>
      simp only [deadline, Option.map_none, Wait.till] at polled
      split at polled <;> cases polled
      rfl
    | some l =>
      simp only [deadline, Option.map_some, Nat.add_le_add_iff_left] at polled
      by_cases within : time ≤ duration l
      · rw [if_pos within] at polled
        simp only [Wait.till] at polled
        split at polled <;> cases polled
        simp [within]
      · rw [if_neg within] at polled
        simp only [Wait.till] at polled
        split at polled <;> cases polled
        simp [within]

/-- A call of the processing function ends as its turn says if that takes no longer than the limit,
and is cut off if it does. -/
theorem World.process_answer {w₀ w w' : World} {e : Envelope} {limit : Option Span}
    {outcome : ProcessingOutcome}
    (polled : (w₀.begin (.process e limit)).2.poll w = some (outcome, w')) :
    outcome = if limit.all fun l => w₀.turn.time ≤ duration l then w₀.turn.finish e.content
      else .tooLate := by
  have ends : (outcome, w') = if limit.all fun l => w₀.turn.time ≤ duration l then
      (w₀.turn.finish e.content, w) else (.tooLate, w) := poll_taking_limit polled
  by_cases within : (limit.all fun l => w₀.turn.time ≤ duration l) = true
  · rw [if_pos within] at ends ⊢
    exact congrArg Prod.fst ends
  · rw [if_neg within] at ends ⊢
    exact congrArg Prod.fst ends

namespace Traffic

/-- Whatever fails: a call is completed if and only if its octets are a task, the processing
function replied within its limit, and the sink took the reply where the mode posts it. When it is
completed it has posted that reply and no other in the two modes that post replies, and nothing in
the others; after that it has asked once for the marker of the task to be set, with the text of the
mode, and after that for the acknowledgement. When it has come to another end it has posted nothing
and set no marker. In any run the sink holds what it held at the beginning and what the calls have
posted. And the processing function ends as it was going to, if that is within the limit. -/
theorem replies_posted_by_completed_calls (x : TaskHandler) :
    (∀ d past outcome, (x.handle d).Goes past (.done outcome) → x.RepliesOnce d past outcome) ∧
    (∀ g permits start s, start.intakes = [] → start.handlings = [] →
      Reaches g x permits start s →
        (s.world.sent : Multiset PostedReply) =
          start.world.sent + (s.handlings.map fun h => h.thread.past.effect.sent).sum ∧
        ∀ h ∈ s.handlings, ∀ outcome, h.thread.rest = .done outcome →
          ∃ past, h.thread.past = ⟨.drop h.delivery.id, ()⟩ :: past ∧
            x.RepliesOnce h.delivery past outcome) ∧
    ∀ (w₀ w w' : World) e outcome,
      (w₀.begin (.process e x.processingLimit)).2.poll w = some (outcome, w') →
        outcome = if x.processingLimit.all fun l => w₀.turn.time ≤ World.duration l then
          w₀.turn.finish e.content else .tooLate := by
  refine ⟨fun d past outcome goes => ?_, fun g permits start s intakes handlings run => ⟨?_, ?_⟩,
    fun w₀ w w' e outcome polled => World.process_answer polled⟩
  · exact (TaskHandler.callRecord_of_goes goes).repliesOnce
  · have sent := congrArg Totals.sent (totals_of_reaches intakes handlings run)
    rw [effect_eq intakes handlings run, Totals.sent_add, Totals.sent_add, zero_add,
      Totals.sent_sum, List.map_map] at sent
    exact sent
  · intro h hh outcome ended
    obtain ⟨past, same, record⟩ := callRecord_of_reaches handlings run hh ended
    exact ⟨past, same, record.repliesOnce⟩

def greeted : Traffic where
  world := { quiet.world with
    broker := { ready := [.ofEnvelope (.plain .greeting 1 2 "hi" quiet.world.wallClock)] } }

theorem replies_posted_by_completed_calls_of_greeting :
    ∃ s h past e text, Reaches {} {} (fun _ => true) greeted s ∧ h ∈ s.handlings ∧
      h.thread.rest = .done .completed ∧ h.thread.past = ⟨.drop h.delivery.id, ()⟩ :: past ∧
      Envelope.ofBytes h.delivery.message.body = .ok e ∧
      ({} : TaskHandler).HasReplied e text past ∧ s.world.sent = [⟨1, 2, "ok", false⟩] ∧
      (s.handlings.map fun h => h.thread.past.effect.sent).sum = {⟨1, 2, "ok", false⟩} := by
  obtain ⟨s, run, hs⟩ := reaches_of_play? {} {} (fun _ => true) greeted
    (Move.take :: List.replicate 14 (Move.handling 0))
    (fun s => s.handlings[0]?.any (fun h => h.thread.result? == some .completed) &&
      s.world.sent == [⟨1, 2, "ok", false⟩])
    (by decide +kernel)
  obtain ⟨called, posted⟩ := Bool.and_eq_true_iff.1 hs
  obtain ⟨h, hh, completed⟩ := (Option.any_eq_true ..).1 called
  have place := List.mem_of_getElem? hh
  have ended := Thread.rest_eq_of_result? (beq_iff_eq.1 completed)
  have sent : s.world.sent = _ := beq_iff_eq.1 posted
  obtain ⟨total, calls⟩ :=
    (replies_posted_by_completed_calls {}).2.1 {} (fun _ => true) greeted s rfl rfl run
  obtain ⟨past, same, account⟩ := calls h place .completed ended
  obtain ⟨e, text, decoded, replied⟩ := account.completed_iff.1 rfl
  refine ⟨s, h, past, e, text, run, place, ended, same, decoded, replied, sent, ?_⟩
  rw [sent] at total
  exact (total.trans (zero_add _)).symm

end Traffic
end ReplyPipeline
