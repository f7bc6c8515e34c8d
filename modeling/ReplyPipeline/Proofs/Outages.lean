import ReplyPipeline.Proofs.EventEffects
import ReplyPipeline.Proofs.Playing

/-!
# Outages of the store

Every call of the store may be answered, fail or take too long, each as it likes: a plan says for
each call what becomes of it. An event that asks for a task is never lost to that. The store has a
say only by what it answers in time, that there is a marker or that there is a lock; else the broker
alone decides whether the task gets into the queue (`Gateway.Weathers`). A failure counts as the
favourable answer in its place would.
-/
namespace ReplyPipeline

/-- What becomes of a call of the store: how long it takes, how it ends if it is given that time,
and what is in the store afterwards. -/
structure StoreTurn (c : Store.Call) where
  time : Nat
  answer : Except Store.Error c.Answer
  memory : Store.Memory

namespace StoreTurn

variable {c : Store.Call}

/-- How a call ends that is given no more than a limit. -/
def outcome (t : StoreTurn c) (limit : Option Span) : Except Store.Error c.Answer :=
  match limit with
  | none => t.answer
  | some l => if t.time ≤ World.duration l then t.answer else .error (.timeout l)

def elapsed (t : StoreTurn c) (limit : Option Span) : Nat :=
  match limit with
  | none => t.time
  | some l => min t.time (World.duration l)

end StoreTurn

/-- What becomes of each call of the store. No event makes the gateway call the store twice in the
same way, so that a plan settles every call of its own. -/
abbrev StorePlan := (c : Store.Call) → StoreTurn c

/-- The answer to a call that lets a task go on. -/
def Store.Call.favourable : (c : Store.Call) → c.Answer
  | .setIfAbsent .. => true
  | .set .. => ()
  | .contains _ => false
  | .get _ => none
  | .delete _ => ()
  | .ping => ()

namespace StorePlan

def found (plan : StorePlan) (s : Idempotency) (id : CorrelationId) : Except Store.Error Bool :=
  (plan (.contains (s.markerKey id))).outcome (some s.limit)

def taken (plan : StorePlan) (s : Idempotency) (id : CorrelationId) : Except Store.Error Bool :=
  (plan (.setIfAbsent (s.lockKey id) Idempotency.lockValue s.lockTtl)).outcome (some s.limit)

/-- The plan by which each call that fails is answered favourably instead. -/
def mended (plan : StorePlan) (limit : Span) : StorePlan := fun c =>
  { plan c with
    time := (plan c).elapsed (some limit)
    answer := .ok (((plan c).outcome (some limit)).toOption.getD c.favourable) }

theorem outcome_mended (plan : StorePlan) (limit : Span) (c : Store.Call) :
    (plan.mended limit c).outcome (some limit) =
      .ok (((plan c).outcome (some limit)).toOption.getD c.favourable) :=
  if_pos (Nat.min_le_right ..)

variable {plan : StorePlan} {s : Idempotency} {id : CorrelationId}

theorem found_mended :
    (plan.mended s.limit).found s id = .ok true ↔ plan.found s id = .ok true := by
  rw [found, outcome_mended, ← found]
  cases plan.found s id with
  | ok found => exact Iff.rfl
  | error e => exact ⟨nofun, nofun⟩

/-- A lock is refused by the same answers. -/
theorem taken_mended :
    (plan.mended s.limit).taken s id = .ok false ↔ plan.taken s id = .ok false := by
  rw [taken, outcome_mended, ← taken]
  cases plan.taken s id with
  | ok taken => exact Iff.rfl
  | error e => exact ⟨nofun, nofun⟩

end StorePlan

theorem LockAttempt.mayProceed_ofAnswer {taken : Except Store.Error Bool} :
    (ofAnswer taken).mayProceed = true ↔ taken ≠ .ok false := by
  match taken with
  | .ok true => exact ⟨fun _ => nofun, fun _ => rfl⟩
  | .ok false => exact ⟨nofun, fun h => absurd rfl h⟩
  | .error e => exact ⟨fun _ => nofun, fun _ => rfl⟩

namespace World

variable (plan : StorePlan) (declaring : Nat)

def afterCall (w : World) {c : Store.Call} (t : StoreTurn c) (limit : Option Span) : World :=
  { w with now := w.now + t.elapsed limit, store := t.memory }

/-- The answer of a world whose store goes by a plan. -/
def askPlanned : (r : PipelineRequest) → World → Option (r.Answer × World)
  | .store c limit, w => some ((plan c).outcome limit, w.afterCall (plan c) limit)
  | r, w => w.ask declaring r

variable {plan declaring}

theorem enqueues_afterCall (w : World) {c : Store.Call} (t : StoreTurn c) (limit : Option Span)
    (enqueueLimit : Span) :
    (w.afterCall t limit).Enqueues declaring enqueueLimit ↔ w.Enqueues declaring enqueueLimit :=
  enqueues_congr declaring w (w.afterCall t limit) rfl rfl rfl enqueueLimit

end World

namespace Idempotency

variable (plan : StorePlan) (declaring : Nat) (s : Idempotency) (id : CorrelationId) (w : World)

theorem carryOut_isProcessed_planned :
    (s.isProcessed id).carryOut (World.askPlanned plan declaring) w =
      some (decide (plan.found s id = .ok true),
        w.afterCall (plan (.contains (s.markerKey id))) (some s.limit)) := by
  have look : (s.isProcessed id).carryOut (World.askPlanned plan declaring) w =
      some (match plan.found s id with | .ok found => found | .error _ => false,
        w.afterCall (plan (.contains (s.markerKey id))) (some s.limit)) := by
    refine (Program.carryOut_call rfl).trans ?_
    rw [← StorePlan.found]
    cases plan.found s id <;> rfl
  rw [look]
  match plan.found s id with
  | .ok true => rfl
  | .ok false => rfl
  | .error e => rfl

theorem carryOut_tryLock_planned :
    (s.tryLock id).carryOut (World.askPlanned plan declaring) w =
      some (.ofAnswer (plan.taken s id),
        w.afterCall (plan (.setIfAbsent (s.lockKey id) lockValue s.lockTtl)) (some s.limit)) :=
  Program.carryOut_call rfl

theorem carryOut_releaseLock_planned :
    (s.releaseLock id).carryOut (World.askPlanned plan declaring) w =
      some ((plan (.delete (s.lockKey id))).outcome (some s.limit),
        w.afterCall (plan (.delete (s.lockKey id))) (some s.limit)) :=
  Program.carryOut_call rfl

end Idempotency

namespace Gateway

variable (plan : StorePlan) (declaring : Nat) (g : Gateway)

/-- The store is not called while a task is enqueued. -/
theorem carryOut_enqueue_planned (e : Envelope) (w : World) :
    (g.enqueue e).carryOut (World.askPlanned plan declaring) w =
      (g.enqueue e).carryOut (World.ask declaring) w := by
  refine congrArg (Option.bind _) (funext fun (now, w) => ?_)
  refine congrArg (Option.bind _) (funext fun (declared, w) => ?_)
  match declared with
  | none => rfl
  | some (.error _) => rfl
  | some (.ok ()) =>
    refine congrArg (Option.bind _) (funext fun (published, w) => ?_)
    match published with
    | none => rfl
    | some _ => rfl

/-- What has become of an event that asks for a task, by what came of looking for its marker and of
setting its lock. -/
structure Weathers (event : Event) (id : CorrelationId) (found taken : Except Store.Error Bool)
    (w : World) (a : GatewayAnswer) (w' : World) : Prop where
  duplicate : a = .duplicate id ↔ found = .ok true
  inProgress : a = .inProgress id ↔ found ≠ .ok true ∧ taken = .ok false
  accepted : a = .accepted id event.tenant event.conversationId ↔
    found ≠ .ok true ∧ taken ≠ .ok false ∧ w.Enqueues declaring g.enqueueLimit
  failed : a = .failed id ↔
    found ≠ .ok true ∧ taken ≠ .ok false ∧ ¬ w.Enqueues declaring g.enqueueLimit
  heeded (why : Ignored) : a ≠ .ignored why
  /-- There is one more message at the end of the queue, with the task. -/
  published : a = .accepted id event.tenant event.conversationId → ∃ m : Broker.Message,
    m.IsFreshTask event id w.wallClock ∧ w'.broker = { w.broker with
      declarations := w.broker.declarations + 1
      published := w.broker.published + 1
      ready := w.broker.ready ++ [m] }
  /-- Nothing is published. -/
  unpublished : a ≠ .accepted id event.tenant event.conversationId →
    w'.broker = w.broker ∨
      w'.broker = { w.broker with declarations := w.broker.declarations + 1 }

variable {plan declaring g} {event : Event} {id : CorrelationId} {w w' : World}
  {found taken : Except Store.Error Bool} {a : GatewayAnswer}

/-- One of the four answers is given, and the conditions of it say which. -/
theorem Weathers.answer_eq (h : g.Weathers declaring event id found taken w a w')
    {found' taken' : Except Store.Error Bool} {a' : GatewayAnswer} {w'' : World}
    (h' : g.Weathers declaring event id found' taken' w a' w'')
    (marked : found' = .ok true ↔ found = .ok true)
    (locked : taken' = .ok false ↔ taken = .ok false) : a' = a := by
  by_cases hf : found = .ok true
  · rw [h.duplicate.2 hf, h'.duplicate.2 (marked.2 hf)]
  · have hf' := mt marked.1 hf
    by_cases ht : taken = .ok false
    · rw [h.inProgress.2 ⟨hf, ht⟩, h'.inProgress.2 ⟨hf', locked.2 ht⟩]
    · have ht' := mt locked.1 ht
      by_cases enqueues : w.Enqueues declaring g.enqueueLimit
      · rw [h.accepted.2 ⟨hf, ht, enqueues⟩, h'.accepted.2 ⟨hf', ht', enqueues⟩]
      · rw [h.failed.2 ⟨hf, ht, enqueues⟩, h'.failed.2 ⟨hf', ht', enqueues⟩]

variable (plan declaring g event id w)

theorem carryOut_submit_planned :
    ∃ a w', (g.submit event id).carryOut (World.askPlanned plan declaring) w = some (a, w') ∧
      (w.Enqueues declaring g.enqueueLimit ∧ a = .accepted id event.tenant event.conversationId ∧
          w'.broker = w.broker.declare.push (.ofEnvelope (.ofEvent event id w.wallClock)) ∨
        ¬ w.Enqueues declaring g.enqueueLimit ∧ a = .failed id ∧
          (w'.broker = w.broker ∨ w'.broker = w.broker.declare)) := by
  let task := Envelope.ofEvent event id w.wallClock
  have clock : Action.wallClock.carryOut (World.askPlanned plan declaring) w =
      some (w.wallClock, w) := rfl
  have run {outcome : Except Broker.Error Unit} {w₁ : World}
      (h : (g.enqueue task).carryOut (World.ask declaring) w = some (outcome, w₁)) :
      (g.submit event id).carryOut (World.askPlanned plan declaring) w = _ :=
    (Program.carryOut_bind_of clock).trans
      (Program.carryOut_bind_of ((g.carryOut_enqueue_planned plan declaring task w).trans h))
  rcases g.carryOut_enqueue declaring task w with
    ⟨enqueues, outcome⟩ | ⟨fails, cause, now, broker, faults, outcome, -, -, broker_eq⟩
  · exact ⟨_, _, run outcome, .inl ⟨enqueues, rfl, rfl⟩⟩
  · have release := g.idempotency.carryOut_releaseLock_planned plan declaring id
      { w with now := now, broker := broker, faults := faults }
    exact ⟨_, _, (run outcome).trans (Program.carryOut_bind_of release),
      .inr ⟨fails, rfl, broker_eq⟩⟩

theorem exists_weathered :
    ∃ a w', (g.accept event id).carryOut (World.askPlanned plan declaring) w = some (a, w') ∧
      g.Weathers declaring event id (plan.found g.idempotency id) (plan.taken g.idempotency id)
        w a w' := by
  have look := g.idempotency.carryOut_isProcessed_planned plan declaring id w
  let w₁ := w.afterCall (plan (.contains (g.idempotency.markerKey id))) (some g.idempotency.limit)
  by_cases marked : plan.found g.idempotency id = .ok true
  · rw [decide_eq_true marked] at look
    refine ⟨.duplicate id, w₁, g.carryOut_accept_of_marked event look, ?_⟩
    constructor <;> simp [marked, World.afterCall, w₁]
  · rw [decide_eq_false marked] at look
    have tried := g.idempotency.carryOut_tryLock_planned plan declaring id w₁
    have run := g.carryOut_accept_of_unmarked event look tried
    let w₂ := w₁.afterCall (plan (.setIfAbsent (g.idempotency.lockKey id) Idempotency.lockValue
      g.idempotency.lockTtl)) (some g.idempotency.limit)
    by_cases locked : plan.taken g.idempotency id = .ok false
    · rw [if_neg fun h => LockAttempt.mayProceed_ofAnswer.1 h locked] at run
      refine ⟨.inProgress id, w₂, run, ?_⟩
      constructor <;> simp [marked, locked, World.afterCall, w₁, w₂]
    · have same : w₂.Enqueues declaring g.enqueueLimit ↔ w.Enqueues declaring g.enqueueLimit :=
        (w₁.enqueues_afterCall ..).trans (w.enqueues_afterCall ..)
      obtain ⟨a, w', submitted, done⟩ := g.carryOut_submit_planned plan declaring event id w₂
      rw [if_pos (LockAttempt.mayProceed_ofAnswer.2 locked)] at run
      refine ⟨a, w', run.trans submitted, ?_⟩
      rw [same] at done
      rcases done with ⟨enqueues, rfl, pushed⟩ | ⟨fails, rfl, kept⟩
      · have message := Broker.Message.isFreshTask_ofEvent event id w.wallClock
        constructor <;> simp [marked, locked, enqueues, pushed, World.afterCall, w₁, w₂]
        exact ⟨_, message, rfl⟩
      · constructor <;> simp [marked, locked, fails]
        exact kept

/-- However the store fails, an event that asks for a task is answered, and only what the store says
in time keeps it from being enqueued. Were each failure of the store the favourable answer instead,
the event would be answered the same. -/
theorem store_failures_cost_no_event (passes : g.filter.rejection? event = none)
    (named : event.correlationId? = some id) :
    ∃ a w', (g.handle event).carryOut (World.askPlanned plan declaring) w = some (a, w') ∧
      g.Weathers declaring event id (plan.found g.idempotency id) (plan.taken g.idempotency id)
        w a w' ∧
      ∃ w'', (g.handle event).carryOut
        (World.askPlanned (plan.mended g.idempotency.limit) declaring) w = some (a, w'') := by
  have handles : g.handle event = g.accept event id := by
    unfold handle
    rw [passes, named]
  obtain ⟨a, w', run, weathers⟩ := g.exists_weathered plan declaring event id w
  obtain ⟨a', w'', mended, weathers'⟩ :=
    g.exists_weathered (plan.mended g.idempotency.limit) declaring event id w
  have same : a' = a :=
    weathers.answer_eq weathers' StorePlan.found_mended StorePlan.taken_mended
  rw [handles]
  exact ⟨a, w', run, weathers, w'', same ▸ mended⟩

/-- A store that has a marker but says so too late, cannot be reached then, and is back at last. -/
def flickering : StorePlan
  | .contains _ => ⟨3000000000, .ok true, {}⟩
  | .setIfAbsent .. => ⟨0, .error (.connection "refused"), {}⟩
  | c => ⟨0, .ok c.favourable, {}⟩

/-- The task gets into the queue if the broker is quick enough, and else the event has failed. -/
theorem store_failures_cost_no_event_of_flickering :
    (Gateway.filter {}).rejection? .greeting = none ∧
      Event.greeting.correlationId? = some .greeting ∧
      (∃ a w', (Gateway.handle {} .greeting).carryOut
          (World.askPlanned flickering 2000000000) Http.Service.slowBroker = some (a, w') ∧
        Weathers 2000000000 {} .greeting .greeting (flickering.found {} .greeting)
          (flickering.taken {} .greeting) Http.Service.slowBroker a w' ∧
        ∃ w'', (Gateway.handle {} .greeting).carryOut
          (World.askPlanned (flickering.mended (Span.seconds 2)) 2000000000)
            Http.Service.slowBroker = some (a, w'')) ∧
      [1000000000, 2000000000].map (fun declaring =>
        ((Gateway.handle {} .greeting).carryOut (World.askPlanned flickering declaring)
          Http.Service.slowBroker).map fun (a, w) =>
            (a, w.broker.ready.map fun m => (m.correlationId, m.envelope?.map (·.attempts)))) =
        [some (.accepted .greeting 0 0, [(some "42", some 0)]), some (.failed .greeting, [])] := by
  have passes : (Gateway.filter {}).rejection? .greeting = none := by decide +kernel
  have named : Event.greeting.correlationId? = some .greeting := by decide +kernel
  exact ⟨passes, named, store_failures_cost_no_event flickering 2000000000 {} .greeting .greeting
    Http.Service.slowBroker passes named, by decide +kernel⟩

end Gateway
end ReplyPipeline
