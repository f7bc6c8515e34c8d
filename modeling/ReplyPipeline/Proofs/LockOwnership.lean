import ReplyPipeline.Proofs.Chronicle
import ReplyPipeline.Proofs.SingleFlight

/-!
# Whose lock a request removes

The store does not say whose an entry is, and a request that could not get its task into the queue
removes whatever stands under the key of the lock. That is its own lock as long as every request
that removed it had been granted it and was quick enough. A request whose try for the lock went
unanswered, or whose own lock had run out, may remove the lock of another.
-/
namespace ReplyPipeline

/-- An entry under a key was removed, if there was one. -/
def Exchange.removes (key : String) : Exchange → Bool
  | ⟨.store (.delete k) _, .ok _⟩ => k == key
  | _ => false

def Exchange.isUnanswered : Exchange → Bool
  | ⟨.store .., .error _⟩ => true
  | _ => false

theorem Exchange.request_of_removes {key : String} {y : Exchange} (h : y.removes key = true) :
    ∃ k limit, y.request = .store (.delete k) limit := by
  unfold removes at h
  split at h
  · exact ⟨_, _, rfl⟩
  · cases h

namespace Chronicle

/-- The last exchange that put an entry under a key. -/
def lastPut? (log : Chronicle) (key : String) : Option Deed := log.find? (·.exchange.puts key)

/-- The latest exchange removed an entry that was not put there by the same program. -/
def removesForeign (key : String) : Chronicle → Bool
  | [] => false
  | d :: older =>
    d.exchange.removes key && (d.before.store.peek d.before.now key).isSome &&
      (lastPut? older key).all (·.party != d.party)

end Chronicle

/-- The try for the lock of the same program went unanswered, or the lock it got has run out. -/
def Deed.IsOverdue (s : Idempotency) (id : CorrelationId) (older : Chronicle) (d : Deed) : Prop :=
  ∃ own ∈ older, own.party = d.party ∧
    ((∃ e, own.exchange = ⟨s.lockRequest id, (.error e : Except Store.Error Bool)⟩) ∨
      own.exchange = ⟨s.lockRequest id, (.ok true : Except Store.Error Bool)⟩ ∧
        own.before.now + s.lockTtl.nanos ≤ d.before.now)

/-- No removal of a lock was overdue. -/
def Chronicle.IsTimely (s : Idempotency) (id : CorrelationId) (log : Chronicle) : Prop :=
  ∀ newer r older, log = newer ++ r :: older → r.exchange.removes (s.lockKey id) = true →
    ¬ r.IsOverdue s id older

theorem Chronicle.IsTimely.tail {s : Idempotency} {id : CorrelationId} {d : Deed} {log : Chronicle}
    (h : IsTimely s id (d :: log)) : IsTimely s id log :=
  fun newer r older hl => h (d :: newer) r older (by simp [hl])

namespace Traffic

/-- All events carry one id, no worker takes a message, and nobody else writes to the store. -/
def requestsOnly (id : CorrelationId) : Happening → Bool
  | .arrived event => event.correlationId? = some id
  | .taken => false
  | .intruded => false
  | _ => true

variable {g : Gateway} {x : TaskHandler} {id : CorrelationId} {permits : Happening → Bool}
  {start s : Traffic} {log newer older : Chronicle} {d : Deed}

theorem requestsOnly_arrived (event : Event) (h : requestsOnly id (.arrived event) = true) :
    event.correlationId? = some id := of_decide_eq_true h

theorem handlings_eq_nil (idle : start.handlings = [])
    (run : Reaches g x (requestsOnly id) start s) : s.handlings = [] := by
  induction run with
  | refl => exact idle
  | step _ hp hstep ih =>
    cases hstep with
    | take ht => cases hp
    | handling hl ht => rw [ih] at hl; exact absurd hl (by simp)
    | crashHandling hl alive => rw [ih] at hl; exact absurd hl (by simp)
    | _ => exact ih

/-- Everything is done by intakes. -/
theorem Does.party_eq (none : s.handlings = []) (h : s.Does d) : ∃ k, d.party = .intake k := by
  obtain ⟨party, before, y⟩ := d
  cases party with
  | intake k => exact ⟨k, rfl⟩
  | handling k =>
    obtain ⟨-, j, t, w, place, -⟩ := h
    rw [none] at place
    cases place

/-- A request that removes the lock in time has been granted it, and has not removed it before. -/
theorem Chronicled.own_lock (none : start.intakes = [])
    (run : Chronicled g x (requestsOnly id) start s log) (does : s.Does d) {k : Nat}
    (own : d.party = .intake k) (removes : d.exchange.removes (g.idempotency.lockKey id) = true)
    (timely : ¬ d.IsOverdue g.idempotency id log) :
    ∃ q ∈ log, q.party = d.party ∧ q.exchange.puts (g.idempotency.lockKey id) = true ∧
      s.world.now < q.before.now + g.idempotency.lockTtl.nanos ∧
      ∀ r ∈ log, r.party = d.party → r.exchange.removes (g.idempotency.lockKey id) = false := by
  obtain ⟨⟨taken, proceeds, tried⟩, kept⟩ : g.Proceeds id (log.of (.intake k)) := by
    have calls := run.calls none requestsOnly_arrived does own
    generalize d.exchange = y at calls removes
    obtain ⟨key, limit, asked⟩ := Exchange.request_of_removes removes
    rcases calls _ limit asked with ⟨other, -⟩ | ⟨other, -⟩ | ⟨-, proceeds⟩
    · cases other
    · cases other
    · exact proceeds
  obtain ⟨q, hq, party, same⟩ := Chronicle.mem_of tried
  have party := party.trans own.symm
  match taken with
  | .ok false => cases proceeds
  | .error e => exact absurd ⟨q, hq, party, .inl ⟨e, same⟩⟩ timely
  | .ok true =>
    refine ⟨q, hq, party, ?_, ?_, fun r hr theirs => ?_⟩
    · rw [same]
      simp [Exchange.puts, Idempotency.lockRequest, Store.Memory.puts]
    · by_contra old
      refine timely ⟨q, hq, party, .inr ⟨same, ?_⟩⟩
      rw [does.1]
      exact Nat.le_of_not_lt old
    · rw [← Bool.not_eq_true]
      intro again
      obtain ⟨key, limit, asked⟩ := Exchange.request_of_removes again
      exact kept _ (Chronicle.mem_of_party hr (theirs.trans own)) key limit asked

theorem Chronicled.lasts (none : start.intakes = [])
    (run : Chronicled g x (requestsOnly id) start s log) (does : s.Does d) {k : Nat}
    (own : d.party = .intake k) {key : String} {till : Moment} (young : s.world.now < till)
    (spared : d.exchange.removes key = false) (lasts : s.world.store.Lasts key till) :
    (d.exchange.onStore s.world.store s.world.now).Lasts key till := by
  have calls := run.calls none requestsOnly_arrived does own
  generalize d.exchange = y at calls spared ⊢
  obtain ⟨r, a⟩ := y
  cases r with
  | store call limit =>
    match a with
    | .error _ => exact lasts
    | .ok answer =>
      refine lasts.perform young ?_
      rcases calls call limit rfl with ⟨same, -⟩ | ⟨same, -⟩ | ⟨same, -⟩ <;> cases same
      · trivial
      · trivial
      · exact ne_of_beq_false spared
  | _ => exact lasts

/-- While no removal is overdue, a lock that was granted, is young enough and was not removed is the
last entry under its key, and stands. -/
theorem Chronicled.lock_stands (none : start.intakes = []) (idle : start.handlings = [])
    (run : Chronicled g x (requestsOnly id) start s log) (timely : log.IsTimely g.idempotency id)
    {q : Deed} (hq : q ∈ log) (granted : q.exchange.puts (g.idempotency.lockKey id) = true)
    (young : s.world.now < q.before.now + g.idempotency.lockTtl.nanos)
    (kept : ∀ r ∈ log, r.party = q.party →
      r.exchange.removes (g.idempotency.lockKey id) = false) :
    Chronicle.lastPut? log (g.idempotency.lockKey id) = some q ∧
      s.world.store.Lasts (g.idempotency.lockKey id)
        (q.before.now + g.idempotency.lockTtl.nanos) := by
  refine run.store_induction rfl (P := fun log m now => log.IsTimely g.idempotency id →
    ∀ q ∈ log, q.exchange.puts (g.idempotency.lockKey id) = true →
      now < q.before.now + g.idempotency.lockTtl.nanos →
      (∀ r ∈ log, r.party = q.party → r.exchange.removes (g.idempotency.lockKey id) = false) →
      Chronicle.lastPut? log (g.idempotency.lockKey id) = some q ∧
        m.Lasts (g.idempotency.lockKey id) (q.before.now + g.idempotency.lockTtl.nanos))
    ?_ ?_ ?_ timely q hq granted young kept
  · exact fun _ q hq => absurd hq List.not_mem_nil
  · exact fun h hn timely q hq granted young =>
      h timely q hq granted (Nat.lt_of_le_of_lt hn young)
  · intro s log d run does _ before timely q hq granted young kept
    obtain ⟨k, own⟩ := does.party_eq (handlings_eq_nil idle run.reaches)
    have before := before timely.tail
    have spared : ∀ r ∈ log, r.party = q.party →
        r.exchange.removes (g.idempotency.lockKey id) = false :=
      fun r hr => kept r (List.mem_cons_of_mem d hr)
    cases puts : d.exchange.puts (g.idempotency.lockKey id) with
    | true =>
      -- A new lock is granted only where none stands.
      obtain ⟨same, -⟩ := run.lock_of_puts none requestsOnly_arrived does own puts
      obtain ⟨_, answers⟩ := does.answers
      rw [same] at answers
      obtain ⟨free, stands⟩ := Store.Memory.setIfAbsent_eq_true answers.eq_perform.symm
      rcases List.mem_cons.1 hq with rfl | hq
      · refine ⟨List.find?_cons_of_pos puts, ?_⟩
        rw [same, does.1]
        exact stands
      · exact absurd (before q hq granted young spared).2 (free _ young)
    | false =>
      have hq : q ∈ log := by
        rcases List.mem_cons.1 hq with rfl | hq
        · exact absurd (granted.symm.trans puts) nofun
        · exact hq
      have last : Chronicle.lastPut? (d :: log) (g.idempotency.lockKey id) =
          Chronicle.lastPut? log (g.idempotency.lockKey id) :=
        List.find?_cons_of_neg (by simp [puts])
      obtain ⟨mine, lasts⟩ := before q hq granted young spared
      cases removes : d.exchange.removes (g.idempotency.lockKey id) with
      | false => exact ⟨last.trans mine, run.lasts none does own young removes lasts⟩
      | true =>
        -- Who removes in time removes the last lock, which is its own.
        obtain ⟨q', hq', same, granted', young', kept'⟩ :=
          run.own_lock none does own removes (timely [] d log rfl removes)
        obtain ⟨mine', -⟩ := before q' hq' granted' young'
          (fun r hr party => kept' r hr (party.trans same))
        obtain rfl : q = q' := Option.some.inj (mine.symm.trans mine')
        exact absurd (kept d List.mem_cons_self same.symm) (by simp [removes])

/-- A request removes the lock of another only if some removal so far, this one or an earlier one,
was by a request whose try for the lock had gone unanswered or whose own lock had run out. -/
theorem overdue_of_foreign_removal (none : start.intakes = []) (idle : start.handlings = [])
    (run : Chronicled g x (requestsOnly id) start s log) (hl : log = newer ++ d :: older)
    (foreign : Chronicle.removesForeign (g.idempotency.lockKey id) (d :: older) = true) :
    ∃ later r earlier, d :: older = later ++ r :: earlier ∧
      r.exchange.removes (g.idempotency.lockKey id) = true ∧
      r.IsOverdue g.idempotency id earlier := by
  by_contra timely
  have timely : Chronicle.IsTimely g.idempotency id (d :: older) :=
    fun later r earlier hr removes overdue => timely ⟨later, r, earlier, hr, removes, overdue⟩
  subst hl
  obtain ⟨s₁, before, -, does⟩ := run.before
  obtain ⟨k, own⟩ := does.party_eq (handlings_eq_nil idle before.reaches)
  obtain ⟨found, others⟩ := Bool.and_eq_true_iff.1 foreign
  obtain ⟨removes, -⟩ := Bool.and_eq_true_iff.1 found
  obtain ⟨q, hq, same, granted, young, kept⟩ :=
    before.own_lock none does own removes (timely [] d older rfl removes)
  obtain ⟨last, -⟩ := before.lock_stands none idle timely.tail hq granted young
    (fun r hr party => kept r hr (party.trans same))
  rw [last] at others
  exact absurd same (by simpa using others)

/-- The publication of a request fails after its lock has run out. What it removes is the lock that
a second request has been granted since. -/
theorem exists_late_removal :
    ∃ s d older, Chronicled {} {} (requestsOnly .greeting) quiet s (d :: older) ∧
      Chronicle.removesForeign (Idempotency.lockKey {} .greeting) (d :: older) = true ∧
      older.all (fun q => !q.exchange.isUnanswered) = true := by
  obtain ⟨s, log, run, hs⟩ := chronicled_of_play? {} {} (requestsOnly .greeting) quiet
    (Move.fault .publish 1 :: Move.arrive .greeting :: List.replicate 11 (Move.intake 0) ++
      Move.wait (300 * 10 ^ 9) :: Move.arrive .greeting :: List.replicate 4 (Move.intake 1) ++
      List.replicate 3 (Move.intake 0))
    (fun (_, log) => Chronicle.removesForeign (Idempotency.lockKey {} .greeting) log &&
      log.tail.all fun q => !q.exchange.isUnanswered)
    (by decide +kernel)
  obtain ⟨foreign, answered⟩ := Bool.and_eq_true_iff.1 hs
  cases log with
  | nil => cases foreign
  | cons d older => exact ⟨s, d, older, run, foreign, answered⟩

/-- The store does not answer a request when it tries for the lock, and its publication fails. What
it removes is the lock that a second request has been granted since, and no time has passed. -/
theorem exists_unanswered_removal :
    ∃ s d older, Chronicled {} {} (requestsOnly .greeting) quiet s (d :: older) ∧
      Chronicle.removesForeign (Idempotency.lockKey {} .greeting) (d :: older) = true ∧
      d.before.now = quiet.world.now := by
  obtain ⟨s, log, run, hs⟩ := chronicled_of_play? {} {} (requestsOnly .greeting) quiet
    (Move.fault .publish 1 :: Move.breakStore true :: Move.arrive .greeting ::
      List.replicate 4 (Move.intake 0) ++ Move.breakStore false :: Move.arrive .greeting ::
      List.replicate 4 (Move.intake 1) ++ List.replicate 10 (Move.intake 0))
    (fun (_, log) => Chronicle.removesForeign (Idempotency.lockKey {} .greeting) log &&
      log.head?.all fun d => d.before.now == quiet.world.now)
    (by decide +kernel)
  obtain ⟨foreign, early⟩ := Bool.and_eq_true_iff.1 hs
  cases log with
  | nil => cases foreign
  | cons d older => exact ⟨s, d, older, run, foreign, beq_iff_eq.1 early⟩

theorem overdue_of_late_removal :
    ∃ (s : Traffic) (d r : Deed) (older later earlier : Chronicle),
      Chronicled {} {} (requestsOnly .greeting) quiet s (d :: older) ∧
      Chronicle.removesForeign (Idempotency.lockKey {} .greeting) (d :: older) = true ∧
      d :: older = later ++ r :: earlier ∧
      r.exchange.removes (Idempotency.lockKey {} .greeting) = true ∧
      r.IsOverdue {} .greeting earlier := by
  obtain ⟨s, d, older, run, foreign, -⟩ := exists_late_removal
  have place : d :: older = [] ++ d :: older := rfl
  obtain ⟨later, r, earlier, hl, removes, overdue⟩ :=
    overdue_of_foreign_removal rfl rfl run place foreign
  exact ⟨s, d, r, older, later, earlier, run, foreign, hl, removes, overdue⟩

/-- Not every request removes its own lock only, neither where the store has answered all calls nor
where less time has passed than a lock lasts. -/
theorem removals_not_all_own :
    (¬ ∀ (g : Gateway) (x : TaskHandler) (id : CorrelationId) (start s : Traffic)
      (newer older : Chronicle) (d : Deed), start.Fresh →
      Chronicled g x (requestsOnly id) start s (newer ++ d :: older) →
      older.all (fun q => !q.exchange.isUnanswered) = true →
      Chronicle.removesForeign (g.idempotency.lockKey id) (d :: older) = false) ∧
    ¬ ∀ (g : Gateway) (x : TaskHandler) (id : CorrelationId) (start s : Traffic)
      (newer older : Chronicle) (d : Deed), start.Fresh →
      Chronicled g x (requestsOnly id) start s (newer ++ d :: older) →
      d.before.now < start.world.now + g.idempotency.lockTtl.nanos →
      Chronicle.removesForeign (g.idempotency.lockKey id) (d :: older) = false := by
  constructor
  · intro own
    obtain ⟨s, d, older, run, foreign, answered⟩ := exists_late_removal
    have mine := own {} {} .greeting quiet s [] older d ⟨rfl, rfl, rfl, rfl, rfl, rfl⟩ run answered
    exact absurd (foreign.symm.trans mine) nofun
  · intro own
    obtain ⟨s, d, older, run, foreign, early⟩ := exists_unanswered_removal
    have mine := own {} {} .greeting quiet s [] older d ⟨rfl, rfl, rfl, rfl, rfl, rfl⟩ run
      (by rw [early]; decide)
    exact absurd (foreign.symm.trans mine) nofun

end Traffic
end ReplyPipeline
