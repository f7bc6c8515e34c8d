import ReplyPipeline.Proofs.Chronicle
import ReplyPipeline.Proofs.SingleFlight

/-!
# Locks taken where the marker is set

The gateway looks for the marker in one call of the store and takes the lock in another. Between the
two a worker may set the marker, and the lock may expire; the gateway then has the lock of a task
that has been completed, and publishes it once more. There is no other way to it: a lock that is
taken where the marker is set has had the marker set after its own look for it.
-/
namespace ReplyPipeline

/-- A key without an entry stays so through an exchange that puts none there. -/
theorem Record.Answers.lacks {m m' : Record} {y : Exchange} {key : String}
    (h : m.Answers y.request y.answer m') (lacks : m.store.Lacks key m.now)
    (quiet : y.puts key = false) : (y.onStore m.store m.now).Lacks key m.now := by
  obtain ⟨r, a⟩ := y
  cases r with
  | store c limit =>
    match a with
    | .error _ => exact lacks
    | .ok found =>
      obtain rfl := h.eq_perform
      exact lacks.perform quiet
  | _ => exact lacks

theorem Idempotency.lockKey_ne_markerKey (s : Idempotency) (id : CorrelationId) :
    s.lockKey id ≠ s.markerKey id := by
  intro same
  have lengths := congrArg String.length same
  simp only [lockKey, markerKey, String.length_append] at lengths
  have long : "processed:lock:".length = "processed:".length + 5 := by decide
  omega

namespace Traffic

/-- All events carry one id, the store answers every call, and nobody else writes to it. -/
def answering (id : CorrelationId) : Happening → Bool
  | .arrived event => event.correlationId? = some id
  | .answered ⟨.store .., a⟩ => Except.isOk a
  | .intruded => false
  | _ => true

variable {g : Gateway} {x : TaskHandler} {id : CorrelationId} {permits : Happening → Bool}
  {start s : Traffic} {log newer older : Chronicle} {d : Deed}

/-- Once a key was not found there is no entry under it until one is put there. -/
theorem Chronicled.lacks_since (closed : permits .intruded = false)
    (run : Chronicled g x permits start s log) {key : String} {limit : Option Span}
    {between : Chronicle} (hl : log = between ++ d :: older)
    (look : d.exchange = ⟨.store (.contains key) limit, (.ok false : Except Store.Error Bool)⟩)
    (still : ∀ b ∈ between, b.exchange.puts key = false) :
    s.world.store.Lacks key s.world.now := by
  refine run.store_induction closed (P := fun log m now => ∀ between, log = between ++ d :: older →
    (∀ b ∈ between, b.exchange.puts key = false) → m.Lacks key now) ?_ ?_ ?_ between hl still
  · exact fun between hl => absurd hl (by simp)
  · exact fun h hn between hl still => (h between hl still).mono hn
  · intro s log b run does hp before between hl still
    obtain ⟨rest, answers⟩ := does.answers
    obtain ⟨rfl, hl⟩ | ⟨between', rfl, hl⟩ := List.append_eq_cons_iff.1 hl.symm
    · obtain ⟨rfl, -⟩ := List.cons.inj hl
      rw [look] at answers ⊢
      exact Store.Memory.lacks_of_contains answers.eq_perform.symm
    · have lacks := before between' (List.cons.inj hl).2
        fun c hc => still c (List.mem_cons_of_mem b hc)
      exact answers.lacks lacks (still b List.mem_cons_self)

theorem answering_arrived (event : Event) (h : answering id (.arrived event) = true) :
    event.correlationId? = some id := of_decide_eq_true h

/-- A request that takes the lock where the marker is set looked for the marker before, and a worker
set it in between. -/
theorem mark_between_look_and_lock (none : start.intakes = [])
    (run : Chronicled g x (answering id) start s log) (hl : log = newer ++ d :: older) {k : Nat}
    (own : d.party = .intake k) (taken : d.exchange.puts (g.idempotency.lockKey id) = true)
    (marked : (d.before.store.peek d.before.now (g.idempotency.markerKey id)).isSome = true) :
    ∃ look between oldest, older = between ++ look :: oldest ∧ look.party = .intake k ∧
      look.exchange = ⟨g.idempotency.checkRequest id, (.ok false : Except Store.Error Bool)⟩ ∧
      ∃ mark ∈ between, (∃ j, mark.party = .handling j) ∧
        mark.exchange.puts (g.idempotency.markerKey id) = true := by
  subst hl
  obtain ⟨s₁, before, -, does⟩ := run.before
  -- The lock is tried next after a look that found nothing.
  obtain ⟨same, -⟩ := before.lock_of_puts none answering_arrived does own taken
  obtain ⟨found, new, past⟩ : ∃ found : Except Store.Error Bool, found ≠ .ok true ∧
      older.of (.intake k) = [⟨g.idempotency.checkRequest id, found⟩] := by
    rcases before.calls none answering_arrived does own _ _ (by rw [same]; rfl) with
      ⟨other, -⟩ | ⟨-, look⟩ | ⟨other, -⟩
    · cases other
    · exact look
    · cases other
  obtain ⟨look, hlook, owner, asked⟩ := Chronicle.mem_of (by rw [past]; exact List.mem_cons_self)
  obtain ⟨between, oldest, rfl⟩ := List.append_of_mem hlook
  obtain ⟨s₂, -, permitted, -⟩ := before.before
  obtain rfl : found = .ok false := by
    rw [asked] at permitted
    match found with
    | .error _ => cases permitted
    | .ok true => exact absurd rfl new
    | .ok false => rfl
  refine ⟨look, between, oldest, rfl, owner, asked, ?_⟩
  -- Were nothing put under the key of the marker since, it would not be set.
  by_contra unmarked
  have still : ∀ b ∈ between, b.exchange.puts (g.idempotency.markerKey id) = false := by
    intro b hb
    rw [← Bool.not_eq_true]
    intro puts
    refine unmarked ⟨b, hb, ?_, puts⟩
    obtain ⟨b₁, b₂, rfl⟩ := List.append_of_mem hb
    have shape : (b₁ ++ b :: b₂) ++ look :: oldest = b₁ ++ b :: (b₂ ++ look :: oldest) := by simp
    rw [shape] at before
    obtain ⟨s₃, earlier, -, does'⟩ := before.before
    cases party : b.party with
    | handling j => exact ⟨j, rfl⟩
    | intake j =>
      obtain ⟨-, clash⟩ := earlier.lock_of_puts none answering_arrived does' party puts
      exact absurd clash.symm (g.idempotency.lockKey_ne_markerKey id)
  have lacks := before.lacks_since rfl rfl asked still
  rw [does.1] at marked
  change (s₁.world.store.peek s₁.world.now _).isSome = true at marked
  rw [lacks.peek_eq_none] at marked
  cases marked

/-- A second request looks for the marker while the task is being processed, and takes the lock when
the marker has been set and the lock has expired. Its task is accepted. -/
theorem exists_marked_lock :
    ∃ s log newer d older i, Chronicled {} {} (answering .greeting) quiet s log ∧
      log = newer ++ d :: older ∧ d.party = .intake 1 ∧
      d.exchange.puts (Idempotency.lockKey {} .greeting) = true ∧
      (d.before.store.peek d.before.now (Idempotency.markerKey {} .greeting)).isSome = true ∧
      s.intakes[1]? = some i ∧ i.isAccepted = true := by
  obtain ⟨s, log, run, hs⟩ := chronicled_of_play? {} {} (answering .greeting) quiet
    (Move.arrive .greeting :: List.replicate 12 (Move.intake 0) ++ Move.take ::
      List.replicate 4 (Move.handling 0) ++ Move.arrive .greeting ::
      List.replicate 2 (Move.intake 1) ++ List.replicate 10 (Move.handling 0) ++
      Move.wait (300 * 10 ^ 9) :: List.replicate 10 (Move.intake 1))
    (fun (s, log) => (s.intakes[1]?.any Intake.isAccepted) && log.any fun d =>
      d.party == .intake 1 && d.exchange.puts (Idempotency.lockKey {} .greeting) &&
        (d.before.store.peek d.before.now (Idempotency.markerKey {} .greeting)).isSome)
    (by decide +kernel)
  obtain ⟨accepted, deed⟩ := Bool.and_eq_true_iff.1 hs
  obtain ⟨i, hi, accepted⟩ := (Option.any_eq_true ..).1 accepted
  obtain ⟨d, hd, facts⟩ := List.any_eq_true.1 deed
  simp only [Bool.and_eq_true, beq_iff_eq] at facts
  obtain ⟨⟨own, taken⟩, marked⟩ := facts
  obtain ⟨newer, older, hl⟩ := List.append_of_mem hd
  exact ⟨s, log, newer, d, older, i, run, hl, own, taken, marked, hi, accepted⟩

theorem mark_between_look_and_lock_of_slow_task :
    ∃ s log d, Chronicled {} {} (answering .greeting) quiet s log ∧ d ∈ log ∧
      d.exchange.puts (Idempotency.lockKey {} .greeting) = true ∧
      ∃ mark ∈ log, (∃ j, mark.party = .handling j) ∧
        mark.exchange.puts (Idempotency.markerKey {} .greeting) = true := by
  obtain ⟨s, log, newer, d, older, i, run, hl, own, taken, marked, -, -⟩ := exists_marked_lock
  obtain ⟨look, between, oldest, rfl, -, -, mark, hmark, worker, puts⟩ :=
    mark_between_look_and_lock rfl run hl own taken marked
  refine ⟨s, log, d, run, ?_, taken, mark, ?_, worker, puts⟩ <;> simp [hl, hmark]

/-- The marker does not keep a request from taking the lock and publishing the task. -/
theorem marked_tasks_not_all_refused :
    ¬ ∀ (g : Gateway) (x : TaskHandler) (id : CorrelationId) (start s : Traffic)
      (log : Chronicle) (d : Deed) (k : Nat) (i : Intake),
      x.idempotency = g.idempotency → start.Fresh → Chronicled g x (answering id) start s log →
      d ∈ log → d.party = .intake k → d.exchange.puts (g.idempotency.lockKey id) = true →
      s.intakes[k]? = some i → i.isAccepted = true →
      (d.before.store.peek d.before.now (g.idempotency.markerKey id)).isSome = false := by
  intro refused
  obtain ⟨s, log, newer, d, older, i, run, hl, own, taken, marked, hi, accepted⟩ :=
    exists_marked_lock
  have unmarked := refused {} {} .greeting quiet s log d 1 i rfl ⟨rfl, rfl, rfl, rfl, rfl, rfl⟩ run
    (by simp [hl]) own taken hi accepted
  rw [marked] at unmarked
  cases unmarked

end Traffic
end ReplyPipeline
