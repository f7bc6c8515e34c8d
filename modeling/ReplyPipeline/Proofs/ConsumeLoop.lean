import Mathlib.Logic.Relation
import ReplyPipeline.Proofs.HandlingHistory
import ReplyPipeline.Proofs.Surroundings

/-!
# The loop of a worker

A worker goes from phase to phase until it stops. Its broker may do anything: declarations and
consumers fail, deliveries, errors and ends of the stream come in any order, and every call is
answered in any way; the stop signal may be given at any moment. Only about the signal no answer is
wrong, though a message may be answered when the signal has just been given.

The record of a loop is made of what the loop itself asks and of whole handlings, each right behind
the delivery that it is about; at its end there may be a handling under way
(`Worker.Keeps.turn`). From this follows what the loop does with deliveries, and when it ends
(`Worker.loop_keeps_deliveries`).
-/
namespace ReplyPipeline

/-! ## What is asked and answered -/

/-- A request that a loop makes between two deliveries. -/
def PipelineRequest.isOfLoop : PipelineRequest → Bool
  | .isStopped _ => true
  | .declareTopology _ => true
  | .consume => true
  | .next .. => true
  | .leave _ => true
  | .pauseUnlessStopped .. => true
  | _ => false

/-- A request on the way to a consumer, or for its next delivery. -/
def PipelineRequest.isOpening : PipelineRequest → Bool
  | .declareTopology _ => true
  | .consume => true
  | .next .. => true
  | _ => false

/-- A request that waits for the stream or for the end of a rest. -/
def PipelineRequest.isWaiting : PipelineRequest → Bool
  | .next .. => true
  | .pauseUnlessStopped .. => true
  | _ => false

namespace Exchange

def delivery? : Exchange → Option Broker.Delivery
  | ⟨.next .., .delivery d⟩ => some d
  | _ => none

def saysStopped : Exchange → Bool
  | ⟨.isStopped _, a⟩ => a
  | ⟨.next .., .stopped⟩ => true
  | ⟨.pauseUnlessStopped .., a⟩ => a
  | _ => false

def saysRunning : Exchange → Bool
  | ⟨.isStopped _, a⟩ => !a
  | _ => false

/-- The answer is right about the signal. -/
def Truthful (given : Bool) (y : Exchange) : Prop :=
  (y.saysStopped = true → given = true) ∧ (y.saysRunning = true → given = false)

def settles : Exchange → Bool
  | ⟨.settle .., a⟩ => Except.isOk a
  | _ => true

end Exchange

/-- It has been seen that the signal was given. -/
def History.sawStop (past : History) : Bool := past.any Exchange.saysStopped

/-- The deliveries that were handed over and have not been settled since. -/
def History.held : History → List Broker.DeliveryId
  | [] => []
  | ⟨.next .., .delivery d⟩ :: past => d.id :: held past
  | ⟨.settle id _, .ok ()⟩ :: past => (held past).filter (· != id)
  | _ :: past => held past

namespace History

variable {y : Exchange} {ys past : History} {id : Broker.DeliveryId}

theorem mem_held_of_cons (none : y.delivery? = none) (h : id ∈ held (y :: past)) :
    id ∈ held past := by
  obtain ⟨r, a⟩ := y
  cases r with
  | next c stop limit =>
    cases a with
    | delivery d => cases none
    | _ => exact h
  | settle j how =>
    match a with
    | .ok () => exact (List.mem_filter.1 h).1
    | .error _ => exact h
  | _ => exact h

theorem held_of_delivery? {d : Broker.Delivery} (h : y.delivery? = some d) :
    held (y :: past) = d.id :: past.held := by
  obtain ⟨r, a⟩ := y
  cases r with
  | next c stop limit =>
    cases a with
    | delivery d' =>
      cases h
      rfl
    | _ => cases h
  | _ => cases h

theorem mem_held_of_append (none : ∀ y ∈ ys, y.delivery? = none) (h : id ∈ held (ys ++ past)) :
    id ∈ held past := by
  induction ys with
  | nil => exact h
  | cons y ys ih =>
    obtain ⟨first, none⟩ := List.forall_mem_cons.1 none
    exact ih none (mem_held_of_cons first h)

theorem not_mem_held {how : Broker.Settlement} (none : ∀ y ∈ ys, y.delivery? = none)
    (settled : (⟨.settle id how, Except.ok ()⟩ : Exchange) ∈ ys) : id ∉ held (ys ++ past) := by
  intro h
  obtain ⟨newer, older, rfl⟩ := List.append_of_mem settled
  rw [List.append_assoc] at h
  have kept := mem_held_of_append (fun y hy => none y (List.mem_append_left _ hy)) h
  have other := (List.mem_filter.1 kept).2
  simp at other

end History

/-- A program has been answered so and has come to the rest. -/
inductive Program.Goes {α : Type} (p : Action α) : History → Action α → Prop
  | start : Goes p [] p
  | answer {past : History} {r : PipelineRequest} {next : r.Answer → Action α} (a : r.Answer) :
      Goes p past (.call r next) → Goes p (⟨r, a⟩ :: past) (next a)

namespace Worker

/-- A worker in its loop. -/
structure Looping where
  rest : Action WorkerPhase
  past : History := []
  /-- The stop signal has been given. -/
  given : Bool := false

/-- One step of a loop, or the signal being given. -/
inductive Turn (w : Worker) (stop : StopSignal) : Looping → Looping → Prop
  | signalled (s : Looping) : Turn w stop s { s with given := true }
  | answered {s : Looping} (y : Exchange) {next : y.request.Answer → Action WorkerPhase} :
      s.rest = .call y.request next → y.Truthful s.given →
      Turn w stop s { s with rest := next y.answer, past := y :: s.past }
  | phase {s : Looping} {p : WorkerPhase} : s.rest = .done p → p ≠ .stopped →
      Turn w stop s { s with rest := w.step stop p }

/-- What is done with a delivery. -/
def tend (w : Worker) (c : Broker.ConsumerId) (d : Broker.Delivery) : Action WorkerPhase :=
  (w.handler.handle d).bind fun _ => .call (.drop d.id) fun _ => .done (.streaming c)

/-- The record of a loop that has handled all that it was handed: every delivery from the beginning
to the end, right after it came, and then let go of. -/
inductive Complete (w : Worker) : History → Prop
  | nil : Complete w []
  | own {y : Exchange} {past : History} : y.request.isOfLoop = true → y.delivery? = none →
      Complete w past → Complete w (y :: past)
  | handled {y : Exchange} {d : Broker.Delivery} {ys past : History} {o : DeliveryOutcome} :
      y.delivery? = some d → Complete w past → (w.handler.handle d).Goes ys (.done o) →
      Complete w (⟨.drop d.id, ()⟩ :: (ys ++ y :: past))

/-- What the loop may go on with between two deliveries: it asks nothing but what is its own; when
it is handed a delivery it tends to it; and when it has seen that the signal was given it opens
nothing and comes to its end. -/
def Minds (w : Worker) : Bool → Action WorkerPhase → Prop
  | saw, .done p => (p = .stopped → saw = true) ∧ (saw = true → p = .resting ∨ p = .stopped)
  | saw, .call r next => r.isOfLoop = true ∧ (saw = true → r.isOpening = false) ∧
      ∀ a : r.Answer, (saw = true → Exchange.saysRunning ⟨r, a⟩ = false) →
        match Exchange.delivery? ⟨r, a⟩ with
        | some d => ∃ c, next a = w.tend c d
        | none => Minds w (saw || Exchange.saysStopped ⟨r, a⟩) (next a)

variable {w : Worker} {stop : StopSignal}

theorem minds_step {p : WorkerPhase} (goes_on : p ≠ .stopped) {saw : Bool}
    (h : saw = true → p = .resting) : w.Minds saw (w.step stop p) := by
  cases p with
  | connecting =>
    obtain rfl : saw = false := Bool.eq_false_iff.2 fun seen => nomatch h seen
    refine ⟨rfl, nofun, fun stopped _ => ?_⟩
    match stopped with
    | true => exact ⟨fun _ => rfl, fun _ => .inr rfl⟩
    | false =>
      refine ⟨rfl, nofun, fun declared _ => ?_⟩
      match declared with
      | none => exact ⟨nofun, nofun⟩
      | some (.error _) => exact ⟨nofun, nofun⟩
      | some (.ok ()) =>
        refine ⟨rfl, nofun, fun consumer _ => ?_⟩
        match consumer with
        | .ok c => exact ⟨nofun, nofun⟩
        | .error _ => exact ⟨nofun, nofun⟩
  | streaming c =>
    obtain rfl : saw = false := Bool.eq_false_iff.2 fun seen => nomatch h seen
    have left (saw : Bool) : w.Minds saw (disconnect c) :=
      ⟨rfl, fun _ => rfl, fun _ _ => ⟨nofun, fun _ => .inl rfl⟩⟩
    refine ⟨rfl, nofun, fun arrival _ => ?_⟩
    match arrival with
    | .delivery d => exact ⟨c, rfl⟩
    | .failed _ => exact left _
    | .ended => exact left _
    | .stopped => exact left _
    | .tooLate => exact left _
  | resting =>
    refine ⟨rfl, fun _ => rfl, fun stopped right => ?_⟩
    match stopped with
    | true => exact ⟨fun _ => Bool.or_true saw, fun _ => .inr rfl⟩
    | false =>
      obtain rfl : saw = false := Bool.eq_false_iff.2 fun seen => nomatch right seen
      refine ⟨rfl, nofun, fun stopped _ => ?_⟩
      match stopped with
      | true => exact ⟨fun _ => rfl, fun _ => .inr rfl⟩
      | false => exact ⟨nofun, nofun⟩
  | stopped => exact absurd rfl goes_on

theorem isOfLoop_of_allows {x : TaskHandler} {d : Broker.Delivery} {s : HandlingStanding}
    {r : PipelineRequest} (h : s.allows x d r) : r.isOfLoop = false := by
  cases r with
  | isStopped => exact h.elim
  | declareTopology => exact h.elim
  | consume => exact h.elim
  | next => exact h.elim
  | leave => exact h.elim
  | pauseUnlessStopped => exact h.elim
  | _ => rfl

theorem opens_of_delivery? {y : Exchange} {d : Broker.Delivery} (h : y.delivery? = some d) :
    y.request.isOpening = true ∧ y.saysStopped = false := by
  obtain ⟨r, a⟩ := y
  cases r with
  | next c stop limit =>
    cases a with
    | delivery d => exact ⟨rfl, rfl⟩
    | _ => cases h
  | _ => cases h

theorem delivery?_of_not_isOfLoop {y : Exchange} (h : y.request.isOfLoop = false) :
    y.delivery? = none := by
  obtain ⟨r, a⟩ := y
  cases r <;> first | rfl | cases h

theorem isOfLoop_of_isWaiting {r : PipelineRequest} (h : r.isWaiting = true) :
    r.isOfLoop = true := by
  cases r <;> first | rfl | cases h

theorem sawStop_cons (y : Exchange) (past : History) :
    History.sawStop (y :: past) = (past.sawStop || y.saysStopped) := Bool.or_comm ..

theorem saysStopped_of_not_isOfLoop {y : Exchange} (h : y.request.isOfLoop = false) :
    y.saysStopped = false := by
  obtain ⟨r, a⟩ := y
  cases r <;> first | rfl | cases h

end Worker

theorem Program.Goes.binds {α σ : Type} {c : Code σ} {ends : σ → α → Prop} {start : σ}
    {p q : Action α} {past : History} (h : p.Goes past q) (keeps : c.Binds ends start p) :
    c.Kept start past ∧ c.Binds ends (c.standing start past) q := by
  induction h with
  | start => exact ⟨trivial, keeps⟩
  | answer a _ ih => exact ⟨⟨ih.2.1, ih.1⟩, ih.2.2 a⟩

namespace Worker

/-- A loop does what it should: it is between two deliveries, or it tends to the one that it was
handed last. -/
inductive Keeps (w : Worker) : Looping → Prop
  | between {rest : Action WorkerPhase} {past : History} {given : Bool} :
      w.Complete past → (past.sawStop = true → given = true) → w.Minds past.sawStop rest →
      Keeps w ⟨rest, past, given⟩
  | tending {y : Exchange} {d : Broker.Delivery} {ys past : History} {c : Broker.ConsumerId}
      {p : Action DeliveryOutcome} {given : Bool} :
      y.delivery? = some d → w.Complete past → History.sawStop (ys ++ y :: past) = false →
      (w.handler.handle d).Goes ys p →
      Keeps w ⟨p.bind fun _ => .call (.drop d.id) fun _ => .done (.streaming c),
        ys ++ y :: past, given⟩

variable {w : Worker} {stop : StopSignal} {s s' : Looping} {d : Broker.Delivery} {past : History}

theorem Keeps.answered {given : Bool} {r : PipelineRequest}
    {next : r.Answer → Action WorkerPhase} (complete : w.Complete past)
    (seen : past.sawStop = true → given = true) (minds : w.Minds past.sawStop (.call r next))
    {a : r.Answer} (right : Exchange.Truthful given ⟨r, a⟩) :
    w.Keeps ⟨next a, ⟨r, a⟩ :: past, given⟩ := by
  obtain ⟨own, closed, goes_on⟩ := minds
  -- The signal is not taken back, so no truthful answer denies it once it has been seen.
  have running : past.sawStop = true → Exchange.saysRunning ⟨r, a⟩ = false := by
    intro stopped
    rw [Bool.eq_false_iff]
    intro running
    cases (seen stopped).symm.trans (right.2 running)
  have after := goes_on a running
  cases hd : Exchange.delivery? ⟨r, a⟩ with
  | some d =>
    rw [hd] at after
    obtain ⟨c, tends⟩ := after
    obtain ⟨opening, silent⟩ := opens_of_delivery? hd
    have fresh : past.sawStop = false := by
      rw [Bool.eq_false_iff]
      intro stopped
      cases opening.symm.trans (closed stopped)
    have unseen : History.sawStop ([] ++ ⟨r, a⟩ :: past) = false := by
      rw [List.nil_append, sawStop_cons, fresh, silent]
      rfl
    rw [tends]
    exact .tending hd complete unseen .start
  | none =>
    rw [hd] at after
    rw [← sawStop_cons ⟨r, a⟩ past] at after
    refine .between (.own own hd complete) ?_ after
    rw [sawStop_cons, Bool.or_eq_true]
    intro h
    exact h.elim seen right.1

/-- A loop goes on as it should, whatever happens. -/
theorem Keeps.turn (h : w.Keeps s) (ht : w.Turn stop s s') : w.Keeps s' := by
  cases ht with
  | signalled =>
    cases h with
    | between complete _ minds => exact .between complete (fun _ => rfl) minds
    | tending hd complete unseen goes => exact .tending hd complete unseen goes
  | @answered y next rest right =>
    obtain ⟨r, a⟩ := y
    cases h with
    | between complete seen minds =>
      cases rest
      exact .answered complete seen minds right
    | @tending y d ys past c p given hd complete unseen goes =>
      -- Neither the handling nor letting go of the delivery looks at the signal.
      have still {r : PipelineRequest} {a : r.Answer} (foreign : r.isOfLoop = false) :
          History.sawStop (⟨r, a⟩ :: (ys ++ y :: past)) = false := by
        rw [sawStop_cons, unseen]
        exact saysStopped_of_not_isOfLoop foreign
      cases p with
      | done o =>
        cases rest
        have unseen := still (r := .drop d.id) (a := a) rfl
        refine .between (.handled hd complete goes) ?_ ?_
        · rw [unseen]
          nofun
        · rw [unseen]
          exact ⟨nofun, nofun⟩
      | call r' next' =>
        cases rest
        have allowed := (goes.binds (w.handler.binds_handle d)).2.1
        have unseen : History.sawStop ((⟨r, a⟩ :: ys) ++ y :: past) = false :=
          still (isOfLoop_of_allows allowed)
        exact .tending hd complete unseen (goes.answer a)
  | phase rest goes_on =>
    cases h with
    | between complete seen minds =>
      cases rest
      refine .between complete seen (minds_step goes_on fun stopped => ?_)
      exact (minds.2 stopped).resolve_right goes_on
    | @tending y d ys past c p given hd complete unseen goes => cases p <;> cases rest

theorem Keeps.turns {given : Bool}
    (run : Relation.ReflTransGen (w.Turn stop) ⟨.done .connecting, [], given⟩ s) : w.Keeps s := by
  induction run with
  | refl => exact .between .nil nofun ⟨nofun, nofun⟩
  | tail _ ht ih => exact ih.turn ht

theorem isOfLoop_of_goes {ys : History} {p : Action DeliveryOutcome}
    (goes : (w.handler.handle d).Goes ys p) : ∀ y ∈ ys, y.request.isOfLoop = false := by
  intro y hy
  obtain ⟨newer, older, rfl⟩ := List.append_of_mem hy
  exact isOfLoop_of_allows (goes.binds (w.handler.binds_handle d)).1.split.1

theorem settled_of_goes {ys : History} {o : DeliveryOutcome}
    (goes : (w.handler.handle d).Goes ys (.done o)) (works : ∀ y ∈ ys, y.settles = true) :
    ∃ how, (⟨.settle d.id how, Except.ok ()⟩ : Exchange) ∈ ys := by
  obtain ⟨kept, fits⟩ := goes.binds (w.handler.binds_handle d)
  obtain ⟨⟨how, done⟩, settlement⟩ := Option.isSome_iff_exists.1
    (HandlingStanding.fits.settlement_isSome fits).1
  obtain ⟨id, outcome, settled, -⟩ := TaskHandler.mem_of_settlement settlement
  have ok : Except.isOk outcome = true := works _ settled
  obtain ⟨newer, older, rfl⟩ := List.append_of_mem settled
  obtain ⟨rfl, -⟩ := HandlingStanding.settlement_of_allows kept.split.1
  cases outcome with
  | error e => cases ok
  | ok u => exact ⟨how, settled⟩

/-- A loop holds nothing between two deliveries when no settlement was refused. -/
theorem Complete.held_eq_nil (h : w.Complete past) (works : ∀ y ∈ past, y.settles = true) :
    past.held = [] := by
  induction h with
  | nil => rfl
  | @own y past _ other _ ih =>
    obtain ⟨-, works⟩ := List.forall_mem_cons.1 works
    rw [List.eq_nil_iff_forall_not_mem]
    intro id hid
    have kept := History.mem_held_of_cons other hid
    rw [ih works] at kept
    cases kept
  | @handled y d ys past o hd _ goes ih =>
    obtain ⟨-, works⟩ := List.forall_mem_cons.1 works
    obtain ⟨inside, works⟩ := List.forall_mem_append.1 works
    obtain ⟨-, works⟩ := List.forall_mem_cons.1 works
    have none : ∀ z ∈ ys, z.delivery? = none := fun z hz =>
      delivery?_of_not_isOfLoop (isOfLoop_of_goes goes z hz)
    have before : History.held (y :: past) = [d.id] := by
      rw [History.held_of_delivery? hd, ih works]
    obtain ⟨how, settled⟩ := settled_of_goes goes inside
    rw [List.eq_nil_iff_forall_not_mem]
    intro id hid
    have hid : id ∈ History.held (ys ++ y :: past) := hid
    have mine := History.mem_held_of_append none hid
    rw [before, List.mem_singleton] at mine
    subst mine
    exact History.not_mem_held none settled hid

/-- Whatever the broker does, and whenever the signal is given: each delivery that came to a worker
has been handled once and from beginning to end, right after it came, but for the last one, which
may be under way; while it is, the loop itself asks nothing. Once it has seen the signal the loop
asks for no consumer and no delivery. It ends only if the signal has been given. And when it waits
for its stream or rests it holds no delivery that has not been settled, unless settlements were
refused. -/
theorem loop_keeps_deliveries {given : Bool}
    (run : Relation.ReflTransGen (w.Turn stop) ⟨.done .connecting, [], given⟩ s) :
    (w.Complete s.past ∨
      ∃ y d ys past c p, s.past = ys ++ y :: past ∧ y.delivery? = some d ∧ w.Complete past ∧
        (w.handler.handle d).Goes ys p ∧
        s.rest = p.bind fun _ => .call (.drop d.id) fun _ => .done (.streaming c)) ∧
    (∀ r next, s.rest = .call r next → r.isOfLoop = true → w.Complete s.past) ∧
    (s.past.sawStop = true → ∀ r next, s.rest = .call r next → r.isOpening = false) ∧
    (s.rest = .done .stopped → s.given = true) ∧
    ((∀ y ∈ s.past, y.settles = true) → ∀ r next, s.rest = .call r next → r.isWaiting = true →
      s.past.held = []) := by
  have keeps : w.Keeps s := .turns run
  have own : ∀ r next, s.rest = .call r next → r.isOfLoop = true → w.Complete s.past := by
    intro r next rest asks
    cases keeps with
    | between complete _ _ => exact complete
    | @tending y d ys past c p given hd complete unseen goes =>
      cases p with
      | done o =>
        cases rest
        cases asks
      | call r' next' =>
        cases rest
        have allowed := (goes.binds (w.handler.binds_handle d)).2.1
        cases (isOfLoop_of_allows allowed).symm.trans asks
  refine ⟨?_, own, ?_, ?_, ?_⟩
  · cases keeps with
    | between complete _ _ => exact .inl complete
    | tending hd complete _ goes => exact .inr ⟨_, _, _, _, _, _, rfl, hd, complete, goes, rfl⟩
  · intro stopped r next rest
    cases keeps with
    | between _ _ minds =>
      cases rest
      exact minds.2.1 stopped
    | tending _ _ unseen _ => cases unseen.symm.trans stopped
  · intro rest
    cases keeps with
    | between _ seen minds =>
      cases rest
      exact seen (minds.1 rfl)
    | @tending _ _ _ _ _ p => cases p <;> cases rest
  · intro works r next rest waits
    have complete := own r next rest (isOfLoop_of_isWaiting waits)
    exact complete.held_eq_nil works

/-- A delivery that cannot be decoded came and was rejected; then the signal was given while the
worker waited for the next one. -/
theorem loop_keeps_deliveries_of_malformed :
    ∃ s, Relation.ReflTransGen (Worker.Turn {} 0) ⟨.done .connecting, [], false⟩ s ∧
      s.past.filterMap Exchange.delivery? = [⟨7, [], none, false⟩] ∧ s.rest = .done .stopped ∧
      s.given = true := by
  have run : Relation.ReflTransGen (Worker.Turn {} 0) ⟨.done .connecting, [], false⟩ _ :=
    Relation.ReflTransGen.refl.tail (.phase rfl nofun)
      |>.tail (.answered ⟨.isStopped 0, false⟩ rfl ⟨nofun, fun _ => rfl⟩)
      |>.tail (.answered ⟨.declareTopology none, some (.ok ())⟩ rfl ⟨nofun, nofun⟩)
      |>.tail (.answered ⟨.consume, Except.ok 0⟩ rfl ⟨nofun, nofun⟩)
      |>.tail (.phase rfl nofun)
      |>.tail (.answered ⟨.next 0 (some 0) none, .delivery ⟨7, [], none, false⟩⟩ rfl ⟨nofun, nofun⟩)
      |>.tail (.answered ⟨.tally .processed, ()⟩ rfl ⟨nofun, nofun⟩)
      |>.tail (.answered ⟨.settle 7 .reject, Except.ok ()⟩ rfl ⟨nofun, nofun⟩)
      |>.tail (.answered ⟨.tally .malformed, ()⟩ rfl ⟨nofun, nofun⟩)
      |>.tail (.answered ⟨.drop 7, ()⟩ rfl ⟨nofun, nofun⟩)
      |>.tail (.phase rfl nofun)
      |>.tail (.signalled _)
      |>.tail (.answered ⟨.next 0 (some 0) none, .stopped⟩ rfl ⟨fun _ => rfl, nofun⟩)
      |>.tail (.answered ⟨.leave 0, ()⟩ rfl ⟨nofun, nofun⟩)
      |>.tail (.phase rfl nofun)
      |>.tail (.answered ⟨.isStopped 0, true⟩ rfl ⟨fun _ => rfl, nofun⟩)
  exact ⟨_, run, rfl, rfl, (loop_keeps_deliveries run).2.2.2.1 rfl⟩

end Worker

/-! ## The world in memory -/

/-- The stop signal that a request of a loop is about. -/
def PipelineRequest.signal? : PipelineRequest → Option StopSignal
  | .isStopped stop => some stop
  | .next _ stop _ => stop
  | .pauseUnlessStopped _ stop => some stop
  | _ => none

/-- The world in memory answers truthfully about a signal that is not taken back. -/
theorem World.truthful_of_poll {w₀ w w' : World} {stop : StopSignal} {r : PipelineRequest}
    {a : r.Answer} (lasts : w₀.isStopped stop = true → w.isStopped stop = true)
    (about : ∀ s ∈ r.signal?, s = stop) (h : (w₀.begin r).2.poll w = some (a, w')) :
    Exchange.Truthful (w.isStopped stop) ⟨r, a⟩ := by
  cases r with
  | isStopped s =>
    obtain rfl := about s rfl
    cases h
    exact ⟨id, fun h => by simpa [Exchange.saysRunning] using h⟩
  | pauseUnlessStopped t s =>
    obtain rfl := about s rfl
    exact ⟨(World.poll_pauseUnlessStopped h).2, nofun⟩
  | next c s limit =>
    refine ⟨fun stopped => ?_, nofun⟩
    have given {v : World} (any : s.any v.isStopped = true) : v.isStopped stop = true := by
      obtain ⟨s', mem, hs⟩ := (Option.any_eq_true ..).1 any
      rwa [about s' mem] at hs
    obtain rfl : a = .stopped := by cases a <;> first | rfl | cases stopped
    rcases World.poll_next h with ⟨d, b, -, handed, -⟩ | ⟨-, told⟩
    · cases handed
    · exact (told rfl).elim (fun before => lasts (given before)) given
  | _ => exact ⟨nofun, nofun⟩

end ReplyPipeline
