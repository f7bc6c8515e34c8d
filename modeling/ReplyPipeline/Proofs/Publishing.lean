import ReplyPipeline.Proofs.OperationWire

/-!
# Callers of a publisher

Any callers call a publisher in any order, and each call may be cut off at any moment, by its own
time or from outside. The server may do anything. What has gone over the wire is written down. A
step of such a run either leaves the record as it is or carries one operation on
(`Publishing.after_serve`); every call that has not begun is one of the operations, and every
channel that is known has been opened (`Publishing.Sound`).
-/
namespace ReplyPipeline.Broker

/-- What happens to a publisher. -/
inductive PublisherEvent where
  /-- Somebody calls. -/
  | enter (caller : Caller) (op : Operation)
  /-- The caller that has the slot goes on, as far as the server answers. -/
  | serve
  /-- A call is dropped from outside. -/
  | abandon (caller : Caller)
  /-- The time of a call is up. -/
  | timeOut (caller : Caller)

namespace Publisher

variable {p : Publisher} {call : PublisherCall}

/-- The calls that have not begun. -/
def calls (p : Publisher) : List PublisherCall :=
  match p.holder with
  | some (.ready call) => call :: p.waiting
  | _ => p.waiting

theorem waiting_subset_calls (p : Publisher) : p.waiting ⊆ p.calls := by
  unfold calls
  split
  · exact List.subset_cons_self ..
  · exact List.Subset.refl _

theorem mem_calls_of_ready (h : p.holder = some (.ready call)) : call ∈ p.calls := by
  rw [calls, h]
  exact List.mem_cons_self

@[simp] theorem calls_passOn (p : Publisher) : p.passOn.calls = p.waiting := by
  obtain ⟨slot, holder, waiting, ended⟩ := p
  cases waiting <;> rfl

theorem mem_calls_enter {other : PublisherCall} (h : other ∈ (p.enter call).calls) :
    other = call ∨ other ∈ p.calls := by
  obtain ⟨slot, holder, waiting, ended⟩ := p
  match holder with
  | none => exact List.mem_cons.1 h
  | some (.ready first) =>
    rcases List.mem_cons.1 h with rfl | h
    · exact .inr List.mem_cons_self
    · rcases List.mem_append.1 h with h | h
      · exact .inr (List.mem_cons_of_mem _ h)
      · exact .inl (List.mem_singleton.1 h)
  | some (.stalled k) =>
    rcases List.mem_append.1 h with h | h
    · exact .inr h
    · exact .inl (List.mem_singleton.1 h)

theorem calls_abandon_subset (p : Publisher) (k : Caller) : (p.abandon k).calls ⊆ p.calls := by
  unfold abandon
  split
  · rw [calls_passOn]
    exact p.waiting_subset_calls
  · obtain ⟨slot, holder, waiting, ended⟩ := p
    match holder with
    | none => exact List.filter_sublist.subset
    | some (.ready first) => exact List.cons_subset_cons _ List.filter_sublist.subset
    | some (.stalled k) => exact List.filter_sublist.subset

@[simp] theorem slot_enter (p : Publisher) (call : PublisherCall) :
    (p.enter call).slot = p.slot := by
  unfold enter
  split <;> rfl

theorem holder_enter (p : Publisher) (call : PublisherCall) :
    (p.enter call).holder = some (p.holder.getD (.ready call)) := by
  unfold enter
  cases h : p.holder with
  | none => rfl
  | some holder => rfl

@[simp] theorem slot_abandon (p : Publisher) (k : Caller) : (p.abandon k).slot = p.slot := by
  unfold abandon
  split <;> rfl

/-- When the time of a call is up the slot is emptied, or it is as before and somebody has it. -/
theorem slot_timeOut (p : Publisher) (limit : Span) (k : Caller) :
    (p.timeOut limit k).slot = none ∨
      (p.timeOut limit k).slot = p.slot ∧ ((p.timeOut limit k).holder.isSome = true) := by
  by_cases free : (p.abandon k).holder.isNone = true
  · exact .inl (if_pos free)
  · refine .inr ⟨(if_neg free).trans (p.slot_abandon k), ?_⟩
    exact Option.isSome_iff_ne_none.2 fun h => free (Option.isNone_iff_eq_none.2 h)

/-- The publisher after an operation of a caller that had the slot: it has ended, or the server has
fallen silent. -/
def carriedOn (p : Publisher) (caller : Caller) (result : Option (Except Error Unit))
    (slot : Option ChannelId) : Publisher :=
  match result with
  | some r => { p with slot, ended := (caller, r) :: p.ended }.passOn
  | none => { p with slot, holder := some (.stalled caller) }

@[simp] theorem slot_carriedOn (p : Publisher) (k : Caller) (result : Option (Except Error Unit))
    (slot : Option ChannelId) : (p.carriedOn k result slot).slot = slot := by
  cases result <;> rfl

theorem calls_carriedOn (p : Publisher) (k : Caller) (result : Option (Except Error Unit))
    (slot : Option ChannelId) : (p.carriedOn k result slot).calls = p.waiting := by
  cases result with
  | none => rfl
  | some r => exact calls_passOn _

theorem serve_of_ready {σ : Type} (answer : Answering σ) (h : p.holder = some (.ready call)) (s : σ)
    (log : WireLog) : ∃ newer result slot s',
      call.program.Exchanges p.slot newer result slot ∧
        p.serve answer.recorded (s, log) =
          (p.carriedOn call.caller result slot, s', log ++ newer) := by
  obtain ⟨newer, result, slot, s', run, exchanges⟩ :=
    ClientAction.exchanges_of_run answer call.program p.slot s log
  refine ⟨newer, result, slot, s', exchanges, ?_⟩
  unfold serve
  rw [h]
  simp only [run]
  cases result <;> rfl

theorem serve_of_not_ready {σ : Type} (answer : Answering σ)
    (h : ∀ call, p.holder ≠ some (.ready call)) (s : σ) : p.serve answer s = (p, s) := by
  unfold serve
  split
  next call ready => exact absurd ready (h call)
  · rfl

end Publisher

/-- A publisher, its server, and what has gone over the wire. -/
structure Publishing (σ : Type) where
  publisher : Publisher := {}
  server : σ
  log : WireLog := []

namespace Publishing

variable {σ : Type} (b : Remote) (answer : Answering σ) (s : Publishing σ)

def after : PublisherEvent → Publishing σ
  | .enter k op => { s with publisher := s.publisher.enter ⟨k, op.program b⟩ }
  | .serve =>
    let (publisher, server, log) := s.publisher.serve answer.recorded (s.server, s.log)
    { publisher, server, log }
  | .abandon k => { s with publisher := s.publisher.abandon k }
  | .timeOut k => { s with publisher := s.publisher.timeOut b.limit k }

/-- What comes of any number of events, each of which is permitted when it happens. -/
inductive Reaches (permits : Publishing σ → PublisherEvent → Prop) (start : Publishing σ) :
    Publishing σ → Prop
  | refl : Reaches permits start start
  | step {s : Publishing σ} {e : PublisherEvent} : Reaches permits start s → permits s e →
      Reaches permits start (s.after b answer e)

variable {b answer s} {permits : Publishing σ → PublisherEvent → Prop} {start : Publishing σ}

variable (answer) in
theorem after_serve {call : PublisherCall} {op : Operation}
    (ready : s.publisher.holder = some (.ready call)) (is : call.program = op.program b) :
    ∃ newer result slot server, b.Service s.publisher.slot op newer result slot ∧
      s.after b answer .serve =
        ⟨s.publisher.carriedOn call.caller result slot, server, s.log ++ newer⟩ := by
  obtain ⟨newer, result, slot, server, exchanges, served⟩ :=
    Publisher.serve_of_ready answer ready s.server s.log
  rw [is] at exchanges
  refine ⟨newer, result, slot, server, Remote.service_of_exchanges exchanges, ?_⟩
  rw [after, served]

theorem after_serve_of_not_ready (h : ∀ call, s.publisher.holder ≠ some (.ready call)) :
    s.after b answer .serve = s := by
  rw [after, Publisher.serve_of_not_ready _ h]

/-- What every run keeps. -/
structure Sound (b : Remote) (s : Publishing σ) : Prop where
  operations : ∀ call ∈ s.publisher.calls, ∃ op : Operation, call.program = op.program b
  known : s.log.IsKnown
  slotKnown : ∀ c, s.publisher.slot = some c → c ∈ s.log.opened

variable (answer) in
theorem Sound.serve (sound : s.Sound b) {call : PublisherCall}
    (ready : s.publisher.holder = some (.ready call)) :
    ∃ op newer result slot server, call.program = op.program b ∧
      b.Service s.publisher.slot op newer result slot ∧
      s.after b answer .serve =
        ⟨s.publisher.carriedOn call.caller result slot, server, s.log ++ newer⟩ := by
  obtain ⟨op, is⟩ := sound.operations call (Publisher.mem_calls_of_ready ready)
  obtain ⟨newer, result, slot, server, service⟩ := after_serve answer ready is
  exact ⟨op, newer, result, slot, server, is, service⟩

variable (answer) in
/-- An event either is the caller with the slot carrying its operation on, or leaves the record as
it is. -/
theorem Sound.after_cases (sound : s.Sound b) (e : PublisherEvent) :
    (∃ call op newer result slot server, e = .serve ∧
      s.publisher.holder = some (.ready call) ∧ call.program = op.program b ∧
      b.Service s.publisher.slot op newer result slot ∧
      s.after b answer e =
        ⟨s.publisher.carriedOn call.caller result slot, server, s.log ++ newer⟩) ∨
      (s.after b answer e).log = s.log ∧
        ((s.after b answer e).publisher.slot = none ∨
          (s.after b answer e).publisher.slot = s.publisher.slot) := by
  cases e with
  | enter k op => exact .inr ⟨rfl, .inr (Publisher.slot_enter ..)⟩
  | abandon k => exact .inr ⟨rfl, .inr (Publisher.slot_abandon ..)⟩
  | timeOut k => exact .inr ⟨rfl, (Publisher.slot_timeOut ..).imp_right And.left⟩
  | serve =>
    by_cases ready : ∃ call, s.publisher.holder = some (.ready call)
    · obtain ⟨call, ready⟩ := ready
      obtain ⟨op, newer, result, slot, server, is, service, eq⟩ := sound.serve answer ready
      exact .inl ⟨call, op, newer, result, slot, server, rfl, ready, is, service, eq⟩
    · rw [after_serve_of_not_ready fun call h => ready ⟨call, h⟩]
      exact .inr ⟨rfl, .inr rfl⟩

variable (answer) in
theorem operations_after (operations : ∀ call ∈ s.publisher.calls,
      ∃ op : Operation, call.program = op.program b) (e : PublisherEvent) :
    ∀ call ∈ (s.after b answer e).publisher.calls, ∃ op : Operation,
      call.program = op.program b := by
  intro call hc
  cases e with
  | enter k op =>
    rcases Publisher.mem_calls_enter hc with rfl | hc
    · exact ⟨op, rfl⟩
    · exact operations call hc
  | abandon k => exact operations call (Publisher.calls_abandon_subset _ k hc)
  | timeOut k => exact operations call (Publisher.calls_abandon_subset _ k hc)
  | serve =>
    by_cases ready : ∃ call, s.publisher.holder = some (.ready call)
    · obtain ⟨first, ready⟩ := ready
      obtain ⟨newer, result, slot, server, exchanges, served⟩ :=
        Publisher.serve_of_ready answer ready s.server s.log
      rw [after, served] at hc
      rw [Publisher.calls_carriedOn] at hc
      exact operations call (s.publisher.waiting_subset_calls hc)
    · rw [after_serve_of_not_ready fun call h => ready ⟨call, h⟩] at hc
      exact operations call hc

theorem Sound.after (sound : s.Sound b) (e : PublisherEvent) : (s.after b answer e).Sound b := by
  have operations := operations_after answer sound.operations e
  rcases sound.after_cases answer e with
    ⟨call, op, newer, result, slot, server, -, ready, is, service, eq⟩ | ⟨log, slot⟩
  · refine ⟨operations, ?_, ?_⟩
    · rw [eq]
      intro x hx c about
      rw [WireLog.opened_append]
      rcases List.mem_append.1 hx with hx | hx
      · exact List.mem_append_left _ (sound.known x hx c about)
      · rcases service.about hx about with kept | opened
        · exact List.mem_append_left _ (sound.slotKnown c kept)
        · exact List.mem_append_right _ opened
    · rw [eq]
      intro c kept
      rw [WireLog.opened_append]
      obtain rfl : slot = some c := (Publisher.slot_carriedOn ..).symm.trans kept
      rcases service.prepared with ⟨same, -⟩ | prepared
      · exact List.mem_append_left _ (sound.slotKnown c same)
      · exact List.mem_append_right _ prepared.opened_mem
  · refine ⟨operations, log ▸ sound.known, fun c kept => ?_⟩
    rw [log]
    rcases slot with empty | same
    · cases empty.symm.trans kept
    · exact sound.slotKnown c (same.symm.trans kept)

theorem Reaches.keeps_sound (run : Reaches b answer permits start s) (sound : start.Sound b) :
    s.Sound b := by
  induction run with
  | refl => exact sound
  | step _ _ ih => exact ih.after _

/-- A publisher that nobody has called is sound, and so is what comes of it. -/
theorem Reaches.sound {server : σ} (run : Reaches b answer permits { server } s) : s.Sound b :=
  run.keeps_sound ⟨nofun, nofun, nofun⟩

variable (answer) in
theorem Sound.log_after (sound : s.Sound b) (e : PublisherEvent) :
    ∃ newer, (s.after b answer e).log = s.log ++ newer := by
  rcases sound.after_cases answer e with
    ⟨call, op, newer, result, slot, server, -, -, -, -, eq⟩ | ⟨log, -⟩
  · exact ⟨newer, by rw [eq]⟩
  · exact ⟨[], by rw [log, List.append_nil]⟩

def play (b : Remote) (answer : Answering σ) (s : Publishing σ) (events : List PublisherEvent) :
    Publishing σ := events.foldl (fun s e => s.after b answer e) s

/-- Each of some events is permitted when it happens. -/
def Permitted (b : Remote) (answer : Answering σ)
    (permits : Publishing σ → PublisherEvent → Prop) : Publishing σ → List PublisherEvent → Prop
  | _, [] => True
  | s, e :: events => permits s e ∧ Permitted b answer permits (s.after b answer e) events

theorem Reaches.play (run : Reaches b answer permits start s)
    {events : List PublisherEvent} (h : Permitted b answer permits s events) :
    Reaches b answer permits start (s.play b answer events) := by
  induction events generalizing s with
  | nil => exact run
  | cons e events ih => exact ih (run.step h.1) h.2

end Publishing
end ReplyPipeline.Broker
