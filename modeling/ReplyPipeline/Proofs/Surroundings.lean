import ReplyPipeline.Simulation.World

/-!
# What a request changes

Of a world only some parts matter to what has been promised: the clock, the store, the broker, the
replies in the sink and the counters. `Record.Answers` says for each request what it may be
answered and what it then has done to them. Faults, limits and latencies decide which of the cases
it is; `World.answers_of_poll` says that there are no others.
-/
namespace ReplyPipeline

/-- The parts of a world that last. -/
structure Record where
  now : Moment
  store : Store.Memory
  broker : Broker.Memory
  sent : List PostedReply
  stats : WorkerCounts

namespace World

def record (w : World) : Record := ⟨w.now, w.store, w.broker, w.sent, w.stats⟩

/-- Time passes, and faults, latencies, signals and the script change in any way. -/
def Drifts (w w' : World) : Prop :=
  w.now ≤ w'.now ∧ w'.record = { w.record with now := w'.now }

end World

namespace Record

/-- The answers that a request may get, and the lasting parts afterwards. -/
def Answers (m : Record) : (r : PipelineRequest) → r.Answer → Record → Prop
  | .now, a, m' => a = m.now ∧ m' = m
  | .store c _, a, m' =>
    a = .ok (m.store.perform m.now c).1 ∧ m' = { m with store := (m.store.perform m.now c).2 } ∨
      (∃ e, a = .error e) ∧ m' = m
  | .declareTopology _, a, m' =>
    a = some (.ok ()) ∧ m' = { m with broker := m.broker.declare } ∨
      (∃ e, a = some (.error e)) ∧ m' = m
  | .publish e _, a, m' =>
    a = some (.ok ()) ∧ m' = { m with broker := m.broker.push (.ofEnvelope e) } ∨
      a ≠ some (.ok ()) ∧ m' = m
  | .reply tenant conversation text isPrivate, a, m' =>
    a = .ok () ∧ m' = { m with sent := m.sent ++ [⟨tenant, conversation, text, isPrivate⟩] } ∨
      (∃ e, a = .error e) ∧ m' = m
  | .settle d how, a, m' =>
    a = (m.broker.settle d how).1 ∧ m' = { m with broker := (m.broker.settle d how).2 } ∨
      (∃ e, a = .error e) ∧ m' = m
  | .tally c, _, m' => m' = { m with stats := m.stats.add c }
  | .consume, a, m' =>
    a = .ok m.broker.consume.1 ∧ m' = { m with broker := m.broker.consume.2 } ∨
      (∃ e, a = .error e) ∧ m' = m
  | .next c _ _, a, m' =>
    (∃ d b, m.broker.next c = .delivery d b ∧ a = .delivery d ∧ m' = { m with broker := b }) ∨
      m' = m
  | .drop d, _, m' => m' = { m with broker := m.broker.drop d }
  | .leave c, _, m' => m' = { m with broker := m.broker.leave c }
  | _, _, m' => m' = m

/-- An answer takes no time of its own. -/
theorem Answers.now_eq {m m' : Record} {r : PipelineRequest} {a : r.Answer}
    (h : m.Answers r a m') : m'.now = m.now := by
  cases r with
  | now => rw [h.2]
  | tally c => rw [show m' = _ from h]
  | drop d => rw [show m' = _ from h]
  | leave c => rw [show m' = _ from h]
  | next c stop limit => rcases h with ⟨_, _, -, -, rfl⟩ | rfl <;> rfl
  | store c limit => rcases h with ⟨-, rfl⟩ | ⟨-, rfl⟩ <;> rfl
  | declareTopology deadline => rcases h with ⟨-, rfl⟩ | ⟨-, rfl⟩ <;> rfl
  | publish e deadline => rcases h with ⟨-, rfl⟩ | ⟨-, rfl⟩ <;> rfl
  | reply => rcases h with ⟨-, rfl⟩ | ⟨-, rfl⟩ <;> rfl
  | settle d how => rcases h with ⟨-, rfl⟩ | ⟨-, rfl⟩ <;> rfl
  | consume => rcases h with ⟨-, rfl⟩ | ⟨-, rfl⟩ <;> rfl
  | _ => rw [show m' = m from h]

end Record

namespace World

variable {w₀ w w' : World}

/-- A use of a place either meets no fault and changes nothing, or meets one and changes only the
faults. -/
theorem useFault_cases (w : World) (p : FaultPoint) :
    w.useFault p = (false, w) ∨ ∃ faults, w.useFault p = (true, { w with faults }) := by
  unfold useFault
  split
  · exact .inr ⟨_, rfl⟩
  · exact .inl rfl

theorem useFault_of_false {p : FaultPoint} (h : (w.useFault p).1 = false) :
    w.useFault p = (false, w) := by
  rcases w.useFault_cases p with none | ⟨faults, hit⟩
  · exact none
  · rw [hit] at h
    cases h

/-! ## What each request does -/

theorem declareTopology_cases (w : World) :
    (∃ e faults, w.declareTopology = (.error e, { w with faults })) ∨
      w.declareTopology = (.ok (), { w with broker := w.broker.declare }) := by
  unfold declareTopology
  rcases w.useFault_cases .topology with none | ⟨faults, hit⟩
  · rw [none]
    exact .inr rfl
  · rw [hit]
    exact .inl ⟨_, faults, rfl⟩

theorem settle_cases (w : World) (d : Broker.DeliveryId) (how : Broker.Settlement) :
    (∃ e faults, w.settle d how = (.error e, { w with faults })) ∨
      w.settle d how =
        ((w.broker.settle d how).1, { w with broker := (w.broker.settle d how).2 }) := by
  unfold settle
  extract_lets point
  rcases w.useFault_cases point with none | ⟨faults, hit⟩
  · rw [none]
    exact .inr rfl
  · rw [hit]
    exact .inl ⟨_, faults, rfl⟩

theorem consume_cases (w : World) :
    (∃ e faults, w.consume = (.error e, { w with faults })) ∨
      w.consume = (.ok w.broker.consume.1, { w with broker := w.broker.consume.2 }) := by
  unfold consume
  rcases w.useFault_cases .consume with none | ⟨faults, hit⟩
  · rw [none]
    exact .inr rfl
  · rw [hit]
    exact .inl ⟨_, faults, rfl⟩

theorem post_cases (w : World) (r : PostedReply) :
    w.post r = (.ok (), { w with sent := w.sent ++ [r] }) ∨
      ∃ e sinkFailures, w.post r = (.error e, { w with sinkFailures }) := by
  unfold post
  split
  · exact .inl rfl
  · exact .inr ⟨_, _, rfl⟩

/-- Something that takes time ends by its answer or by being cut off. -/
theorem poll_taking {α : Type} {time : Nat} {deadline : Option Moment}
    {answer late : World → α × World} {a : α}
    (h : (w₀.taking time deadline answer late).poll w = some (a, w')) :
    answer w = (a, w') ∨ late w = (a, w') := by
  unfold taking at h
  split at h
  · exact .inl (Option.some.inj h)
  · split at h
    · simp only [Wait.till] at h
      split at h
      · exact .inl (Option.some.inj h)
      · cases h
    · split at h <;> simp only [Wait.till] at h <;> split at h
      · exact .inl (Option.some.inj h)
      · cases h
      · exact .inr (Option.some.inj h)
      · cases h

theorem poll_publish {e : Envelope} {deadline : Option Moment}
    {a : Option (Except Broker.Error Unit)}
    (h : (w₀.publish e deadline).2.poll w = some (a, w')) :
    a = some (.ok ()) ∧ w' = { w with broker := w.broker.push (.ofEnvelope e) } ∨
      a ≠ some (.ok ()) ∧ w' = w := by
  unfold publish at h
  split at h
  · cases h
    exact .inr ⟨nofun, rfl⟩
  · rcases poll_taking h with delivered | late
    · simp only [deliver] at delivered
      split at delivered <;> cases delivered
      · exact .inr ⟨nofun, rfl⟩
      · exact .inl ⟨rfl, rfl⟩
    · cases late
      exact .inr ⟨nofun, rfl⟩

/-- A consumer is handed what the broker has for it, or nothing changes. It is told of a stop only
if the signal was there when it asked or is there now. -/
theorem poll_next {c : Broker.ConsumerId} {stop : Option StopSignal} {limit : Option Span}
    {a : Arrival} (h : (w₀.next c stop limit).2.poll w = some (a, w')) :
    (∃ d b, w.broker.next c = .delivery d b ∧ a = .delivery d ∧ w' = { w with broker := b }) ∨
      w' = w ∧ (a = .stopped → stop.any w₀.isStopped = true ∨ stop.any w.isStopped = true) := by
  unfold next at h
  split at h
  next before => cases h; exact .inr ⟨rfl, fun _ => .inl before⟩
  next =>
    rcases w₀.useFault_cases .stream with none | ⟨faults, hit⟩
    · rcases w₀.useFault_cases .streamEnd with none' | ⟨faults, hit⟩
      · simp only [none, none'] at h
        split at h
        next now => cases h; exact .inr ⟨rfl, fun _ => .inr now⟩
        next =>
          rcases Option.or_eq_some_iff.1 h with here | ⟨-, late⟩
          · unfold arrival? at here
            split at here <;> cases here
            · exact .inl ⟨_, _, ‹_›, rfl, rfl⟩
            · exact .inr ⟨rfl, nofun⟩
          · split at late <;> cases late
            exact .inr ⟨rfl, nofun⟩
      · simp only [none, hit] at h
        cases h
        exact .inr ⟨rfl, nofun⟩
    · simp only [hit] at h
      cases h
      exact .inr ⟨rfl, nofun⟩

theorem poll_pauseUnlessStopped {s : Span} {stop : StopSignal} {a : Bool}
    (h : (w₀.pauseUnlessStopped s stop).poll w = some (a, w')) :
    w' = w ∧ (a = true → w.isStopped stop = true) := by
  simp only [pauseUnlessStopped] at h
  split at h
  next stopped => cases h; exact ⟨rfl, fun _ => stopped⟩
  next =>
    split at h <;> cases h
    exact ⟨rfl, nofun⟩

/-- A request that is made uses up faults and turns of the processing function. -/
theorem begin_eq (w : World) (r : PipelineRequest) :
    ∃ faults script calls, (w.begin r).1 = { w with faults, script, calls } := by
  cases r with
  | publish e deadline =>
    simp only [begin, publish]
    rcases w.useFault_cases .publish with none | ⟨faults, hit⟩
    · rw [none]
      exact ⟨_, _, _, rfl⟩
    · rw [hit]
      exact ⟨faults, _, _, rfl⟩
  | next c stop limit =>
    simp only [begin, next]
    split
    · exact ⟨_, _, _, rfl⟩
    · rcases w.useFault_cases .stream with none | ⟨faults, hit⟩
      · rcases w.useFault_cases .streamEnd with none' | ⟨faults, hit⟩
        · simp only [none, none']
          exact ⟨_, _, _, rfl⟩
        · simp only [none, hit]
          exact ⟨faults, _, _, rfl⟩
      · simp only [hit]
        exact ⟨faults, _, _, rfl⟩
  | _ => exact ⟨_, _, _, rfl⟩

theorem record_begin (w : World) (r : PipelineRequest) : (w.begin r).1.record = w.record := by
  obtain ⟨faults, script, calls, made⟩ := w.begin_eq r
  rw [made]
  rfl

/-- A request does what `Record.Answers` says when it is answered, whenever it was made. -/
theorem answers_of_poll {r : PipelineRequest} {a : r.Answer}
    (h : (w₀.begin r).2.poll w = some (a, w')) : w.record.Answers r a w'.record := by
  cases r with
  | now => cases h; exact ⟨rfl, rfl⟩
  | wallClock => cases h; exact rfl
  | brokerHealthy => cases h; exact rfl
  | isStopped s => cases h; exact rfl
  | tally c => cases h; exact rfl
  | drop d => cases h; exact rfl
  | leave c => cases h; exact rfl
  | store c limit =>
    rcases poll_taking h with called | late
    · simp only at called
      split at called <;> cases called
      · exact .inr ⟨⟨_, rfl⟩, rfl⟩
      · exact .inl ⟨rfl, rfl⟩
    · cases late
      exact .inr ⟨⟨_, rfl⟩, rfl⟩
  | declareTopology deadline =>
    simp only [begin, Wait.atOnce] at h
    rcases w.declareTopology_cases with ⟨e, faults, failed⟩ | done
    · rw [failed] at h
      cases h
      exact .inr ⟨⟨e, rfl⟩, rfl⟩
    · rw [done] at h
      cases h
      exact .inl ⟨rfl, rfl⟩
  | publish e deadline =>
    rcases poll_publish h with ⟨done, rfl⟩ | ⟨failed, rfl⟩
    · exact .inl ⟨done, rfl⟩
    · exact .inr ⟨failed, rfl⟩
  | process e limit => rcases poll_taking h with ha | ha <;> cases ha <;> exact rfl
  | pause s => rcases poll_taking h with ha | ha <;> cases ha <;> exact rfl
  | reply tenant conversation text isPrivate =>
    have posted : w.post ⟨tenant, conversation, text, isPrivate⟩ = (a, w') := Option.some.inj h
    rcases w.post_cases ⟨tenant, conversation, text, isPrivate⟩ with done | ⟨e, failures, failed⟩
    · cases done.symm.trans posted
      exact .inl ⟨rfl, rfl⟩
    · cases failed.symm.trans posted
      exact .inr ⟨⟨e, rfl⟩, rfl⟩
  | settle d how =>
    have settled : w.settle d how = (a, w') := Option.some.inj h
    rcases w.settle_cases d how with ⟨e, faults, failed⟩ | done
    · cases failed.symm.trans settled
      exact .inr ⟨⟨e, rfl⟩, rfl⟩
    · cases done.symm.trans settled
      exact .inl ⟨rfl, rfl⟩
  | consume =>
    have began : w.consume = (a, w') := Option.some.inj h
    rcases w.consume_cases with ⟨e, faults, failed⟩ | done
    · cases failed.symm.trans began
      exact .inr ⟨⟨e, rfl⟩, rfl⟩
    · cases done.symm.trans began
      exact .inl ⟨rfl, rfl⟩
  | next c stop limit =>
    rcases poll_next h with ⟨d, b, handed, rfl, rfl⟩ | ⟨rfl, -⟩
    · exact .inl ⟨d, b, handed, rfl, rfl⟩
    · exact .inr rfl
  | pauseUnlessStopped s stop =>
    obtain ⟨rfl, -⟩ := poll_pauseUnlessStopped h
    exact rfl

end World
end ReplyPipeline
