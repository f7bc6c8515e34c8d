import ReplyPipeline.Proofs.Emptying

/-!
# The journeys of messages

A message that is taken from a queue is handled by one call after the other: each but the last ends
with the task published again, and the last one ends with the task completed, or with the message
among the dead letters. When a queue has been drained every message that was in it has come to the
end of its journey, and there are no other calls.
-/
namespace ReplyPipeline

namespace DeliveryOutcome

def settlement : DeliveryOutcome → Broker.Settlement
  | .completed => .ack
  | .retried _ => .ack
  | .deadLettered _ => .reject
  | .malformed => .reject

def isRetry : DeliveryOutcome → Bool
  | .retried _ => true
  | _ => false

end DeliveryOutcome

theorem HandlingStanding.closes.settlement_eq {s : HandlingStanding} {o : DeliveryOutcome}
    (h : s.closes o) :
    (∃ done, s.settlement = some (o.settlement, done)) ∧ s.passedOn = o.isRetry := by
  obtain ⟨s₀, fits, rfl⟩ := h
  cases o <;> obtain ⟨done, settlement, -, passedOn, -⟩ := fits <;>
    exact ⟨⟨done, settlement⟩, passedOn⟩

theorem RetryPolicy.maxAttempts_le {p : RetryPolicy} {n : UInt32}
    (denied : p.shouldRetry (Envelope.saturatingSucc n) = false) :
    p.maxAttempts.toNat ≤ n.toNat + 1 := by
  have reached : ¬ (Envelope.saturatingSucc n).toNat < p.maxAttempts.toNat := fun less =>
    of_decide_eq_false denied (UInt32.lt_iff_toNat_lt.2 less)
  unfold Envelope.saturatingSucc at reached
  have bound := p.maxAttempts.toNat_lt
  split at reached
  · rw [UInt32.toNat_add] at reached
    exact Nat.le_trans (Nat.le_of_not_lt reached) (Nat.mod_le ..)
  · omega

theorem TaskHandler.Closes.processed {x : TaskHandler} {d : Broker.Delivery} {past : History}
    {o : DeliveryOutcome} {e : Envelope} (closes : x.Closes d past o)
    (decoded : Envelope.ofBytes d.message.body = .ok e) : past.processed = [e] := by
  cases o with
  | malformed =>
    obtain ⟨⟨f, hf⟩, -⟩ := closes
    cases decoded.symm.trans hf
  | _ =>
    obtain ⟨task, he, processed, -⟩ := closes
    obtain rfl : e = task := Except.ok.inj (decoded.symm.trans he)
    exact processed

theorem TaskHandler.Closes.next {x : TaskHandler} {d : Broker.Delivery} {past : History}
    {n : UInt32} {e : Envelope} {m : Broker.Message} (closes : x.Closes d past (.retried n))
    (decoded : Envelope.ofBytes d.message.body = .ok e) (pushed : past.pushed = [m]) :
    ∃ e', Envelope.ofBytes m.body = .ok e' ∧ e'.attempts.toNat = e.attempts.toNat + 1 := by
  obtain ⟨task, he, -, published, rfl, granted⟩ := closes
  obtain rfl : e = task := Except.ok.inj (decoded.symm.trans he)
  obtain rfl := List.singleton_inj.1 (pushed.symm.trans published)
  obtain ⟨e', again, next, -⟩ := ofBytes_retried he granted
  exact ⟨e', again, next⟩

/-- A call has come to its end, has done what its outcome says, and its delivery is settled. -/
structure Handling.Ended (x : TaskHandler) (h : Handling) (o : DeliveryOutcome) : Prop where
  rest : h.thread.rest = .done o
  closes : x.Closes h.delivery h.thread.past o
  settlement : h.standing.settlement = some (o.settlement, true)

namespace TaskHandler

/-- The calls that a message goes through, the first one first. -/
inductive Journey (x : TaskHandler) : Broker.Message → List Handling → Prop
  | ends {h : Handling} {o : DeliveryOutcome} :
      h.Ended x o → o.isRetry = false → Journey x h.delivery.message [h]
  | retried {h : Handling} {n : UInt32} {m : Broker.Message} {calls : List Handling} :
      h.Ended x (.retried n) → h.thread.past.pushed = [m] → Journey x m calls →
      Journey x h.delivery.message (h :: calls)

variable {x : TaskHandler} {m m' : Broker.Message} {e : Envelope} {calls later : List Handling}
  {lane : List (Broker.Message × Bool)}

/-- The calls for the copies on a trail lead to the last copy. -/
theorem Trail.journey (trail : x.Trail m lane m') (entries : calls.map Handling.entry = lane)
    (ended : ∀ h ∈ calls, ∃ o, h.Ended x o ∧ h.standing.passedOn = o.isRetry)
    (last : x.Journey m' later) : x.Journey m (calls ++ later) := by
  -- The trail grows at its end, the journey at its beginning: the last copy moves to the later calls.
  induction trail generalizing calls later with
  | start =>
    rw [List.map_eq_nil_iff.1 entries]
    exact last
  | @next lane m' e before he granted ih =>
    obtain ⟨earlier, hs, rfl, copies, single⟩ := List.map_eq_append_iff.1 entries
    obtain ⟨h, rfl, entry⟩ := List.map_eq_singleton_iff.1 single
    obtain ⟨message, passed⟩ := Prod.mk.inj entry
    obtain ⟨o, done, retry⟩ := ended h (by simp)
    rw [passed] at retry
    rw [List.append_assoc]
    refine ih copies (fun h hh => ended h (List.mem_append_left _ hh)) ?_
    cases o with
    | retried n =>
      obtain ⟨task, decoded, -, pushed, -⟩ := done.closes
      rw [message] at decoded
      obtain rfl : e = task := Except.ok.inj (he.symm.trans decoded)
      rw [← message]
      exact .retried done pushed last
    | _ => cases retry

theorem Journey.ne_nil (h : x.Journey m calls) : calls ≠ [] := by
  cases h <;> exact List.cons_ne_nil _ _

theorem Journey.attempts (h : x.Journey m calls) (decoded : Envelope.ofBytes m.body = .ok e) :
    (calls.flatMap (·.thread.past.processed)).map (·.attempts.toNat) =
      List.range' e.attempts.toNat calls.length := by
  induction h generalizing e with
  | ends done _ => simp [done.closes.processed decoded]
  | retried done pushed _ ih =>
    obtain ⟨e', again, next⟩ := done.closes.next decoded pushed
    rw [List.flatMap_cons, done.closes.processed decoded, List.map_append, ih again, next,
      List.length_cons, List.range'_succ]
    rfl

theorem Journey.malformed (h : x.Journey m calls) {f : EnvelopeError}
    (undecoded : Envelope.ofBytes m.body = .error f) : ∃ h, calls = [h] ∧ h.Ended x .malformed := by
  cases h with
  | @ends h o done last =>
    cases o with
    | malformed => exact ⟨h, rfl, done⟩
    | _ =>
      obtain ⟨task, he, -⟩ := done.closes
      cases undecoded.symm.trans he
  | retried done =>
    obtain ⟨task, he, -⟩ := done.closes
    cases undecoded.symm.trans he

/-- A task of which every attempt fails, and which is published again whenever that is tried, is
attempted as often as the policy lets it be. It is a dead letter then, as it was attempted last. -/
theorem Journey.exhausted (h : x.Journey m calls) (decoded : Envelope.ofBytes m.body = .ok e)
    (fails : ∀ h ∈ calls, h.thread.rest ≠ .done .completed ∧ h.thread.past.wasRefused = false) :
    x.retry.maxAttempts.toNat ≤ e.attempts.toNat + calls.length ∧
    ∃ last n e', calls.getLast? = some last ∧ last.Ended x (.deadLettered n) ∧
      Envelope.ofBytes last.delivery.message.body = .ok e' ∧
      last.thread.past.processed = [e'] ∧
      e'.attempts.toNat + 1 = e.attempts.toNat + calls.length := by
  induction h generalizing e with
  | @ends h o done _ =>
    obtain ⟨failed, accepted⟩ := fails h List.mem_cons_self
    have tried := done.closes.processed decoded
    cases o with
    | malformed =>
      obtain ⟨⟨f, hf⟩, -⟩ := done.closes
      cases decoded.symm.trans hf
    | retried n => contradiction
    | completed => exact absurd done.rest failed
    | deadLettered n =>
      refine ⟨?_, h, n, e, rfl, done, decoded, tried, rfl⟩
      obtain ⟨task, he, -, -, rfl, why⟩ := done.closes
      obtain rfl : e = task := Except.ok.inj (decoded.symm.trans he)
      refine RetryPolicy.maxAttempts_le (Bool.eq_false_iff.2 fun granted => ?_)
      cases accepted.symm.trans (why granted)
  | @retried h n m' calls done pushed later ih =>
    obtain ⟨e', again, next⟩ := done.closes.next decoded pushed
    obtain ⟨reached, last, n, e'', hl, given, body, tried, count⟩ :=
      ih again fun h hh => fails h (List.mem_cons_of_mem _ hh)
    rw [next] at reached count
    refine ⟨by rw [List.length_cons]; omega, last, n, e'', ?_, given, body, tried, ?_⟩
    · rw [List.getLast?_cons, hl]
      rfl
    · rw [List.length_cons]
      omega

/-- What has become of a message, and by which calls. -/
structure Fate (x : TaskHandler) (m : Broker.Message) (calls : List Handling) : Prop where
  journey : x.Journey m calls
  length_le : calls.length ≤ x.tries m
  malformed : ∀ f, Envelope.ofBytes m.body = .error f →
    ∃ h, calls = [h] ∧ h.Ended x .malformed
  attempts : ∀ e, Envelope.ofBytes m.body = .ok e →
    (calls.flatMap (·.thread.past.processed)).map (·.attempts.toNat) =
      List.range' e.attempts.toNat calls.length
  exhausted : ∀ e, Envelope.ofBytes m.body = .ok e →
    (∀ h ∈ calls, h.thread.rest ≠ .done .completed ∧ h.thread.past.wasRefused = false) →
      calls.length = x.tries m ∧
      ∃ last n e', calls.getLast? = some last ∧ last.Ended x (.deadLettered n) ∧
        Envelope.ofBytes last.delivery.message.body = .ok e' ∧
        last.thread.past.processed = [e'] ∧
        e'.attempts.toNat + 1 = e.attempts.toNat + x.tries m

theorem Journey.fate (h : x.Journey m calls) (bound : calls.length ≤ x.tries m) :
    x.Fate m calls where
  journey := h
  length_le := bound
  malformed _ undecoded := h.malformed undecoded
  attempts _ decoded := h.attempts decoded
  exhausted e decoded fails := by
    obtain ⟨reached, last⟩ := h.exhausted decoded fails
    have some_ := List.length_pos_of_ne_nil h.ne_nil
    have all : calls.length = x.tries m := by
      refine Nat.le_antisymm bound ?_
      unfold tries
      rw [decoded]
      exact Nat.max_le.2 ⟨some_, by omega⟩
    rw [← all]
    exact ⟨rfl, last⟩

end TaskHandler

namespace Traffic

/-- The calls for what goes back to a place. -/
def callsFor (s : Traffic) (i : Nat) : List Handling := s.handlings.filter (·.origin = some i)

variable {g : Gateway} {x : TaskHandler} {w : World} {s : Traffic}

/-- Where everything is drained, every call has come to its end. -/
theorem Reaches.exists_ended (run : Reaches g x draining (queued w) s)
    (drained : s.isDrained = true) {h : Handling} (hh : h ∈ s.handlings) :
    ∃ o, h.Ended x o ∧ h.standing.passedOn = o.isRetry := by
  obtain ⟨-, done⟩ := Bool.and_eq_true_iff.1 drained
  obtain ⟨o, ho⟩ := Option.isSome_iff_exists.1 (List.all_eq_true.1 done h hh)
  have rest := Thread.rest_eq_of_result? ho
  have closes := (run.sound.handlings h hh).rest
  rw [rest] at closes
  obtain ⟨⟨done, settlement⟩, passedOn⟩ := HandlingStanding.closes.settlement_eq closes
  have succeeded : h.standing.settlement.all (·.2) = true := run.drains.settled h hh
  change h.standing.settlement = _ at settlement
  rw [settlement] at succeeded
  obtain rfl : done = true := succeeded
  exact ⟨o, ⟨rest, (ends_of_reaches rfl run hh rest).2, settlement⟩, passedOn⟩

/-- Where everything is drained, every message has come to the end of its journey. -/
theorem Reaches.journey (run : Reaches g x draining (queued w) s) (drained : s.isDrained = true)
    {i : Nat} {m : Broker.Message} (hm : w.broker.ready[i]? = some m) :
    x.Journey m (s.callsFor i) := by
  obtain ⟨empty, -⟩ := Bool.and_eq_true_iff.1 drained
  have lane := run.drains.lanes i m hm
  rw [List.isEmpty_iff.1 empty, waitingOf, List.zip_nil_right] at lane
  obtain ⟨copies, last, entries, trail⟩ := lane.eq_held
  obtain ⟨earlier, hs, calls, rfl, single⟩ := List.map_eq_append_iff.1 entries
  obtain ⟨h, rfl, entry⟩ := List.map_eq_singleton_iff.1 single
  obtain ⟨rfl, kept⟩ := Prod.mk.inj entry
  have each : ∀ k ∈ earlier ++ [h], ∃ o, k.Ended x o ∧ k.standing.passedOn = o.isRetry := by
    rw [← calls]
    exact fun k hk => run.exists_ended drained (List.mem_of_mem_filter hk)
  obtain ⟨o, finished, retry⟩ := each h (by simp)
  change s.handlings.filter _ = _ at calls
  rw [callsFor, calls]
  refine trail.journey rfl (fun h hh => each h (List.mem_append_left _ hh)) (.ends finished ?_)
  rw [← retry, kept]

/-- Draining a queue comes to an end, and every message that was in it has one fate. Whatever the
messages are, and however attempts and publications end, as long as settlements are done: there are
no more calls than the messages have attempts left, each call makes a bounded number of requests,
and before everything is drained there is always a call that can go on or be begun. When everything
is drained nothing waits and nothing that was taken is in flight; each call was made for one of the
messages; and the calls for a message are a journey, of which each call but the last has published
the task again and the last one has completed it or has put it among the dead letters, where nothing
else has come. -/
theorem draining_gives_every_message_one_fate (run : Reaches g x draining (queued w) s) :
    s.handlings.length ≤ (w.broker.ready.map x.tries).sum ∧
    (∀ h ∈ s.handlings, h.thread.past.length ≤ TaskHandler.requestBound) ∧
    (s.isDrained = false → s.GoesOn g x) ∧
    (∃ s', Reaches g x draining s s' ∧ s'.isDrained = true) ∧
    (s.isDrained = true →
      s.world.broker.ready = [] ∧
      s.world.broker.inFlight = w.broker.inFlight ∧
      s.world.broker.deadLetters.Perm (w.broker.deadLetters ++ buriedOf s.handlings) ∧
      (∀ h ∈ s.handlings, ∃ i m, w.broker.ready[i]? = some m ∧ h ∈ s.callsFor i) ∧
      ∀ i m, w.broker.ready[i]? = some m → x.Fate m (s.callsFor i)) := by
  have drains := run.drains
  refine ⟨drains.length_le, run.past_le, drains.goesOn run.sound, run.exists_drained,
    fun drained => ⟨?_, ?_, drains.buried, fun h hh => ?_, fun i m hm => ?_⟩⟩
  · exact List.isEmpty_iff.1 (Bool.and_eq_true_iff.1 drained).1
  · have settled : s.handlings.countP (fun h => !h.standing.isSettled) = 0 := by
      refine List.countP_eq_zero.2 fun h hh => ?_
      obtain ⟨o, ended, -⟩ := run.exists_ended drained hh
      simp [HandlingStanding.isSettled, ended.settlement]
    rw [drains.inFlight, settled, Nat.add_zero]
  · obtain ⟨i, origin, inside⟩ := drains.taken h hh
    exact ⟨i, _, List.getElem?_eq_getElem inside, List.mem_filter.2 ⟨hh, by simpa using origin⟩⟩
  · refine (run.journey drained hm).fate ?_
    have bound := (drains.lanes i m hm).length_le
    rw [laneOf, List.length_map] at bound
    exact Nat.le_of_add_right_le bound

/-- A task that always fails and octets that are no task, in the queue of a world in which two
attempts at a task are made at most. -/
def failing : World where
  wallClock := quiet.world.wallClock
  broker.ready := [.ofEnvelope (.plain .greeting 1 7 "hi" quiet.world.wallClock), ⟨[], none, false⟩]
  script := List.replicate 2 ⟨none, fun _ => .failed .emptyReply⟩

theorem draining_gives_every_message_one_fate_of_failures :
    ∃ s, Reaches {} { retry := { RetryPolicy.standard with maxAttempts := 2 } } draining
        (queued failing) s ∧ s.isDrained = true ∧ s.handlings.length = 3 ∧
      (failing.broker.ready.map
        (TaskHandler.tries { retry := { RetryPolicy.standard with maxAttempts := 2 } })).sum = 3 ∧
      s.world.broker.ready = [] ∧ s.world.broker.deadLetters.length = 2 := by
  obtain ⟨s, run, hs⟩ := reaches_of_play? {}
    { retry := { RetryPolicy.standard with maxAttempts := 2 } } draining (queued failing)
    (Move.take :: List.replicate 5 (Move.handling 0) ++ Move.wait (5 * 10 ^ 9) ::
      List.replicate 9 (Move.handling 0) ++ Move.take :: List.replicate 8 (Move.handling 1) ++
      Move.take :: List.replicate 12 (Move.handling 2))
    (fun s => s.isDrained && s.handlings.length == 3 && s.world.broker.deadLetters.length == 2 &&
      (failing.broker.ready.map
        (TaskHandler.tries { retry := { RetryPolicy.standard with maxAttempts := 2 } })).sum == 3)
    (by decide +kernel)
  simp only [Bool.and_eq_true, beq_iff_eq] at hs
  obtain ⟨⟨⟨drained, calls⟩, dead⟩, tries⟩ := hs
  have fates := (draining_gives_every_message_one_fate run).2.2.2.2 drained
  exact ⟨s, run, drained, calls, tries, fates.1, dead⟩

end Traffic
end ReplyPipeline
