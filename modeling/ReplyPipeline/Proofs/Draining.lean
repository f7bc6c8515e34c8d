import ReplyPipeline.Proofs.IntakeAccounts
import ReplyPipeline.Proofs.Lanes

/-!
# Draining a queue

Calls are made for the messages of a queue, one after the other or at the same time, while nothing
else arrives. Each message that is taken or waits goes back to one of those that were there at the
beginning, and what goes back to one of them is a lane. `Drains` says this together with what is in
flight and what has been rejected; `Drains.step` keeps it, whatever is answered, as long as
settlements are done.
-/
namespace ReplyPipeline

/-- Nothing arrives, nothing is cut off, and settlements are done. -/
def Traffic.draining : Happening → Bool
  | .arrived _ => false
  | .crashed => false
  | .answered ⟨.settle .., a⟩ => Except.isOk a
  | _ => true

namespace HandlingStanding

/-- What an exchange of a handling does to the queue: nothing, or it publishes the task again. -/
inductive Passes (x : TaskHandler) (d : Broker.Delivery) (origin : Option Nat)
    (s s' : HandlingStanding) (l l' : Ledger) (b b' : Broker.Memory) : Prop
  | same : s'.passedOn = s.passedOn → l'.ready = l.ready → b'.ready = b.ready →
      Passes x d origin s s' l l' b b'
  | pushed {e : Envelope} : s.passedOn = false → s'.passedOn = true →
      Envelope.ofBytes d.message.body = .ok e →
      x.retry.shouldRetry e.recordFailure.attempts = true → l'.ready = l.ready ++ [origin] →
      b'.ready = b.ready ++ [.ofEnvelope e.recordFailure] → Passes x d origin s s' l l' b b'

/-- What an exchange of a handling does to its delivery, where settlements are done: nothing, or it
settles it. -/
inductive Settles (d : Broker.Delivery) (s s' : HandlingStanding) (b b' : Broker.Memory) : Prop
  | same : s'.settlement = s.settlement → b'.deadLetters = b.deadLetters →
      b'.inFlight = b.inFlight → Settles d s s' b b'
  | settled {how : Broker.Settlement} : s.settlement = none → s'.settlement = some (how, true) →
      b'.deadLetters = b.deadLetters ++ (if how = .reject then [d.message] else []) →
      b'.inFlight = b.inFlight - 1 → Settles d s s' b b'

variable {x : TaskHandler} {d : Broker.Delivery} {origin : Option Nat} {s : HandlingStanding}
  {l : Ledger} {m m' : Record} {r : PipelineRequest} {a : r.Answer} {past : History}

theorem change_of_answer (hr : s.allows x d r) (account : (x.account d).allows past r)
    (ha : m.Answers r a m') (hp : Traffic.draining (.answered ⟨r, a⟩) = true)
    (done : s.settlement.all (·.2) = true)
    (hold : ∃ c, m.broker.held.lookup d.id = some ⟨d.message, c, s.isSettled⟩) :
    Passes x d origin s (s.after ⟨r, a⟩) l (l.after origin m.broker (.answered ⟨r, a⟩))
        m.broker m'.broker ∧
      Settles d s (s.after ⟨r, a⟩) m.broker m'.broker := by
  cases r with
  | tally k => cases ha; exact ⟨.same rfl rfl rfl, .same rfl rfl rfl⟩
  | pause t => cases ha; exact ⟨.same rfl rfl rfl, .same rfl rfl rfl⟩
  | process e limit => cases ha; cases a <;> exact ⟨.same rfl rfl rfl, .same rfl rfl rfl⟩
  | reply =>
    rcases ha with ⟨rfl, rfl⟩ | ⟨⟨e, rfl⟩, rfl⟩ <;>
      exact ⟨.same rfl rfl rfl, .same rfl rfl rfl⟩
  | publish e deadline =>
    rcases ha with ⟨rfl, rfl⟩ | ⟨failed, rfl⟩
    · obtain ⟨rfl, -⟩ := hr
      obtain ⟨⟨task, he, rfl⟩, granted, -⟩ := account
      exact ⟨.pushed rfl rfl he granted rfl rfl, .same rfl rfl rfl⟩
    · rw [after_publish_of_ne failed, l.after_publish_of_ne origin _ failed]
      exact ⟨.same rfl rfl rfl, .same rfl rfl rfl⟩
  | settle id how =>
    obtain ⟨rfl, fresh⟩ := settlement_of_allows hr
    have unsettled := isSettled_of_none fresh
    obtain ⟨c, hold⟩ := hold
    obtain ⟨ok, settles⟩ := Broker.Memory.settle_of_open how hold unsettled
    have flight := Broker.Memory.settle_inFlight how hold unsettled
    rcases ha with ⟨rfl, rfl⟩ | ⟨⟨e, rfl⟩, -⟩
    · rw [ok]
      refine ⟨.same rfl ?_ settles.ready, .settled fresh rfl settles.dead flight⟩
      cases how <;> rfl
    · cases hp
  | drop id =>
    -- A delivery goes away only when it has been settled, so nothing returns to the queue.
    obtain ⟨rfl, tried, -⟩ := hr
    obtain ⟨c, hold⟩ := hold
    cases ha
    have settled := isSettled_of_tried tried done
    have ready := Broker.Memory.drop_ready_of_settled hold settled
    refine ⟨.same rfl ?_ ready, .same rfl (Broker.Memory.drop_deadLetters ..)
      (Broker.Memory.drop_inFlight hold settled)⟩
    change (l.drop origin m.broker d.id).ready = _
    unfold Ledger.drop
    rw [hold]
    simp [settled]
  | store call limit =>
    cases call with
    | set =>
      rcases ha with ⟨-, rfl⟩ | ⟨-, rfl⟩ <;> exact ⟨.same rfl rfl rfl, .same rfl rfl rfl⟩
    | delete =>
      rcases ha with ⟨-, rfl⟩ | ⟨-, rfl⟩ <;> exact ⟨.same rfl rfl rfl, .same rfl rfl rfl⟩
    | _ => exact hr.elim
  | _ => exact hr.elim

end HandlingStanding

namespace Handling

/-- The copy that was taken, and whether it was published again. -/
def entry (h : Handling) : Broker.Message × Bool := (h.delivery.message, h.standing.passedOn)

/-- The delivery was rejected. -/
def isBuried (h : Handling) : Bool := h.standing.settlement = some (.reject, true)

end Handling

/-- The copies that were taken of what goes back to a place. -/
def laneOf (handlings : List Handling) (i : Nat) : List (Broker.Message × Bool) :=
  (handlings.filter (·.origin = some i)).map Handling.entry

/-- The copies that wait of what goes back to a place. -/
def waitingOf (origins : List (Option Nat)) (ready : List Broker.Message) (i : Nat) :
    List Broker.Message :=
  ((origins.zip ready).filter (·.1 = some i)).map (·.2)

/-- The messages whose deliveries were rejected. -/
def buriedOf (handlings : List Handling) : List Broker.Message :=
  (handlings.filter Handling.isBuried).map (·.delivery.message)

section Lists

variable {as bs : List Handling} {h h' : Handling} {i : Nat} {o : Option Nat}
  {origins : List (Option Nat)} {ready : List Broker.Message} {m : Broker.Message}

theorem laneOf_append (as bs : List Handling) (i : Nat) :
    laneOf (as ++ bs) i = laneOf as i ++ laneOf bs i := by
  unfold laneOf
  rw [List.filter_append, List.map_append]

theorem laneOf_cons (h : Handling) (bs : List Handling) (i : Nat) :
    laneOf (h :: bs) i = (if h.origin = some i then [h.entry] else []) ++ laneOf bs i := by
  unfold laneOf
  rw [List.filter_cons]
  by_cases own : h.origin = some i <;> simp [own]

theorem laneOf_replaced (origin : h'.origin = h.origin) (entry : h'.entry = h.entry) :
    laneOf (as ++ h' :: bs) i = laneOf (as ++ h :: bs) i := by
  rw [laneOf_append, laneOf_append, laneOf_cons, laneOf_cons, origin, entry]

/-- Each call is in one lane. -/
theorem length_eq_sum_lanes {handlings : List Handling} {n : Nat}
    (places : ∀ h ∈ handlings, ∃ i, h.origin = some i ∧ i < n) :
    handlings.length = ∑ i : Fin n, (laneOf handlings i).length := by
  induction handlings with
  | nil => simp [laneOf]
  | cons h rest ih =>
    obtain ⟨⟨j, own, inside⟩, others⟩ := List.forall_mem_cons.1 places
    have first (i : Fin n) : (laneOf (h :: rest) i).length =
        (if i = ⟨j, inside⟩ then 1 else 0) + (laneOf rest i).length := by
      rw [laneOf_cons, own, List.length_append]
      by_cases here : i = ⟨j, inside⟩
      · simp [here]
      · rw [if_neg here, if_neg (fun h => here (Fin.ext (Option.some.inj h).symm))]
        rfl
    simp only [first, Finset.sum_add_distrib, Finset.sum_ite_eq', Finset.mem_univ, if_true]
    rw [List.length_cons, ih others, Nat.add_comm]

theorem buriedOf_middle (as bs : List Handling) (h : Handling) :
    (buriedOf (as ++ h :: bs)).Perm
      (buriedOf (as ++ bs) ++ if h.isBuried then [h.delivery.message] else []) := by
  unfold buriedOf
  refine ((List.perm_middle.filter _).map _).trans ?_
  rw [List.filter_cons]
  cases h.isBuried
  · simp
  · exact (List.perm_append_singleton _ _).symm

theorem waitingOf_cons :
    waitingOf (o :: origins) (m :: ready) i =
      (if o = some i then [m] else []) ++ waitingOf origins ready i := by
  unfold waitingOf
  rw [List.zip_cons_cons, List.filter_cons]
  by_cases own : o = some i <;> simp [own]

theorem waitingOf_push (traced : origins.length = ready.length) :
    waitingOf (origins ++ [o]) (ready ++ [m]) i =
      waitingOf origins ready i ++ if o = some i then [m] else [] := by
  unfold waitingOf
  rw [List.zip_append traced, List.filter_append, List.map_append]
  by_cases own : o = some i <;> simp [own]

theorem waitingOf_range' (ready : List Broker.Message) (first i : Nat) :
    waitingOf ((List.range' first ready.length).map some) ready i =
      if first ≤ i then (ready[i - first]?).toList else [] := by
  induction ready generalizing first with
  | nil => simp [waitingOf]
  | cons m ready ih =>
    rw [List.length_cons, List.range'_succ, List.map_cons, waitingOf_cons, ih]
    rcases Nat.lt_trichotomy first i with less | rfl | more
    · obtain ⟨j, rfl⟩ := Nat.exists_eq_add_of_lt less
      rw [if_neg (by simp; omega), if_pos (by omega), if_pos (by omega),
        show first + j + 1 - first = j + 1 by omega, show first + j + 1 - (first + 1) = j by omega]
      rfl
    · simp
    · rw [if_neg (by simp; omega), if_neg (by omega), if_neg (by omega)]
      rfl

end Lists

namespace Traffic

/-- A queue that nobody works on yet. The ledger traces its messages to their own places. -/
def queued (w : World) : Traffic where
  world := w
  ledger :=
    { ready := (List.range w.broker.ready.length).map some
      dead := w.broker.deadLetters.map fun _ => none }

/-- Everything that was taken or waits is in the lane of one of the messages. -/
structure Lined (x : TaskHandler) (w : World) (s : Traffic) : Prop where
  traced : s.ledger.ready.length = s.world.broker.ready.length
  waiting : ∀ o ∈ s.ledger.ready, ∃ i, o = some i ∧ i < w.broker.ready.length
  taken : ∀ h ∈ s.handlings, ∃ i, h.origin = some i ∧ i < w.broker.ready.length
  lanes : ∀ i m, w.broker.ready[i]? = some m →
    x.Lane m (laneOf s.handlings i) (waitingOf s.ledger.ready s.world.broker.ready i)

/-- What is in flight and what is dead has come of the calls, none of which was cut off or failed to
settle its delivery. -/
structure Cleared (w : World) (s : Traffic) : Prop where
  alive : ∀ h ∈ s.handlings, h.thread.alive = true
  settled : ∀ h ∈ s.handlings, h.standing.settlement.all (·.2) = true
  inFlight : s.world.broker.inFlight =
    w.broker.inFlight + s.handlings.countP fun h => !h.standing.isSettled
  buried : s.world.broker.deadLetters.Perm (w.broker.deadLetters ++ buriedOf s.handlings)

/-- What is so while a queue is drained. -/
structure Drains (x : TaskHandler) (w : World) (s : Traffic) : Prop extends
    Lined x w s, Cleared w s

variable {g : Gateway} {x : TaskHandler} {w w' : World} {s s' : Traffic} {what : Happening}
  {as bs : List Handling} {h h' : Handling} {l : Ledger}

theorem Lined.of_queued (x : TaskHandler) (w : World) : (queued w).Lined x w := by
  refine ⟨by simp [queued], ?_, by simp [queued], fun i m hm => ?_⟩
  · intro o ho
    obtain ⟨i, hi, rfl⟩ := List.mem_map.1 ho
    exact ⟨i, rfl, List.mem_range.1 hi⟩
  · have waits :
        waitingOf ((List.range w.broker.ready.length).map some) w.broker.ready i = [m] := by
      rw [List.range_eq_range', waitingOf_range', if_pos (Nat.zero_le i), Nat.sub_zero, hm]
      rfl
    have lane := TaskHandler.Lane.waits (x := x) (TaskHandler.Trail.start (x := x) (m := m))
    rw [← waits] at lane
    exact lane

theorem Cleared.of_queued (w : World) : (queued w).Cleared w := by
  refine ⟨?_, ?_, rfl, ?_⟩ <;> simp [queued, buriedOf]

/-- A handling that goes on keeps the lanes: it leaves them as they are, or what it has published
waits in its own. -/
theorem Lined.of_passes (hs : s.Lined x w) (hl : s.handlings = as ++ h :: bs)
    (delivery : h'.delivery = h.delivery) (origin : h'.origin = h.origin)
    (passes : HandlingStanding.Passes x h.delivery h.origin h.standing h'.standing s.ledger l
      s.world.broker w'.broker) :
    Lined x w { s with world := w', handlings := as ++ h' :: bs, ledger := l } := by
  obtain ⟨traced, waiting, taken, lanes⟩ := hs
  have own : ∃ i, h.origin = some i ∧ i < w.broker.ready.length := taken h (by simp [hl])
  have taken' : ∀ k ∈ as ++ h' :: bs, ∃ i, k.origin = some i ∧ i < w.broker.ready.length :=
    forall_mem_replaced hl taken (by rwa [origin])
  rw [hl] at lanes
  cases passes with
  | same passed ledger ready =>
    have entry : h'.entry = h.entry := by rw [Handling.entry, Handling.entry, delivery, passed]
    refine ⟨?_, ?_, taken', fun i m hm => ?_⟩
    · rw [ledger, ready]
      exact traced
    · rw [ledger]
      exact waiting
    · rw [ledger, ready, laneOf_replaced origin entry]
      exact lanes i m hm
  | @pushed e fresh passed he granted ledger ready =>
    refine ⟨?_, ?_, taken', fun i m hm => ?_⟩
    · rw [ledger, ready, List.length_append, List.length_append, traced]
      rfl
    · rw [ledger]
      exact List.forall_mem_append.2 ⟨waiting, List.forall_mem_singleton.2 own⟩
    · -- In its own lane the copy is marked and the new one waits; the other lanes stay.
      have lane := lanes i m hm
      rw [laneOf_append, laneOf_cons] at lane
      rw [ledger, ready, waitingOf_push traced, laneOf_append, laneOf_cons, origin]
      split
      next here =>
        rw [if_pos here, Handling.entry, fresh] at lane
        rw [Handling.entry, passed, delivery]
        exact lane.pass he granted
      next elsewhere =>
        rw [if_neg elsewhere] at lane
        rw [List.append_nil]
        exact lane

/-- A handling that goes on settles its delivery, or leaves what is in flight and what is dead as it
is. -/
theorem Cleared.of_settles (hs : s.Cleared w) (hl : s.handlings = as ++ h :: bs)
    (delivery : h'.delivery = h.delivery) (alive : h'.thread.alive = true)
    (settles : HandlingStanding.Settles h.delivery h.standing h'.standing s.world.broker
      w'.broker) :
    Cleared w { s with world := w', handlings := as ++ h' :: bs, ledger := l } := by
  obtain ⟨lives, settled, inFlight, buried⟩ := hs
  have mine := settled h (by simp [hl])
  rw [hl, countP_middle] at inFlight
  rw [hl] at buried
  have buried := buried.trans ((buriedOf_middle as bs h).append_left _)
  have gather {dead : List Broker.Message}
      (hd : dead.Perm (w.broker.deadLetters ++
        (buriedOf (as ++ bs) ++ if h'.isBuried then [h'.delivery.message] else []))) :
      dead.Perm (w.broker.deadLetters ++ buriedOf (as ++ h' :: bs)) :=
    hd.trans ((buriedOf_middle as bs h').symm.append_left _)
  cases settles with
  | same settlement dead flight =>
    refine ⟨forall_mem_replaced hl lives alive, ?_, ?_, ?_⟩
    · exact forall_mem_replaced hl settled (by rwa [settlement])
    · rw [countP_middle, flight, inFlight]
      simp only [HandlingStanding.isSettled, settlement]
    · rw [dead]
      refine gather ?_
      rwa [Handling.isBuried, settlement, delivery]
  | @settled how fresh settlement dead flight =>
    refine ⟨forall_mem_replaced hl lives alive, ?_, ?_, ?_⟩
    · exact forall_mem_replaced hl settled (by rw [settlement]; rfl)
    · rw [countP_middle, flight, inFlight]
      simp only [HandlingStanding.isSettled, settlement, fresh]
      rfl
    · rw [dead]
      refine gather ?_
      rw [Handling.isBuried, fresh] at buried
      rw [Handling.isBuried, settlement, delivery]
      cases how with
      | ack => simpa using buried
      | reject => simpa using buried.append_right [h.delivery.message]

section Take

variable {consumer : Option Broker.ConsumerId} {d : Broker.Delivery} {b : Broker.Memory}

theorem Lined.take (hs : s.Lined x w) (ht : s.world.broker.take consumer = some (d, b)) :
    (taking x s d b).Lined x w := by
  obtain ⟨rest, ready, ready', -⟩ := Broker.Memory.take_eq_some ht
  obtain ⟨traced, waiting, taken, lanes⟩ := hs
  rw [ready, List.length_cons] at traced
  obtain ⟨o, os, ledger⟩ := List.exists_cons_of_length_eq_add_one traced
  have begun (o : Option Nat) : Handling.standing ⟨d, o, s.world, { rest := x.serve d }⟩ = {} := rfl
  rw [ledger] at traced waiting lanes
  unfold taking
  simp only [ledger, List.head?_cons, Option.join_some, List.tail_cons]
  refine ⟨?_, fun o ho => waiting o (List.mem_cons_of_mem _ ho), ?_, fun i m hm => ?_⟩
  · rw [ready']
    exact Nat.succ.inj traced
  · exact List.forall_mem_append.2
      ⟨taken, List.forall_mem_singleton.2 (waiting o List.mem_cons_self)⟩
  · have lane := lanes i m hm
    rw [ready, waitingOf_cons] at lane
    rw [ready', laneOf_append, laneOf_cons]
    split
    next here =>
      rw [if_pos here, List.singleton_append] at lane
      obtain ⟨none, held⟩ := lane.take
      rw [none]
      simpa [Handling.entry, begun, laneOf] using held
    next elsewhere =>
      rw [if_neg elsewhere] at lane
      simpa [laneOf] using lane

theorem Cleared.take (hs : s.Cleared w) (ht : s.world.broker.take consumer = some (d, b)) :
    (taking x s d b).Cleared w := by
  obtain ⟨-, -, -, -, -, dead, -⟩ := Broker.Memory.take_eq_some ht
  obtain ⟨lives, settled, inFlight, buried⟩ := hs
  have begun (o : Option Nat) : Handling.standing ⟨d, o, s.world, { rest := x.serve d }⟩ = {} := rfl
  refine ⟨List.forall_mem_append.2 ⟨lives, List.forall_mem_singleton.2 rfl⟩,
    List.forall_mem_append.2 ⟨settled, List.forall_mem_singleton.2 rfl⟩, ?_, ?_⟩
  · simp only [taking, List.countP_append, List.countP_singleton, begun]
    rw [Broker.Memory.take_inFlight ht, inFlight]
    rfl
  · simp only [taking]
    rw [dead]
    simpa [buriedOf, List.filter_append, List.filter_cons, Handling.isBuried, begun] using buried

end Take

theorem Drains.step (hs : s.Drains x w) (sound : s.Sound g x) (none : s.intakes = [])
    (accounts : ∀ h ∈ s.handlings, h.thread.Keeps (x.account h.delivery) (x.Ends h.delivery) [])
    (hp : draining what = true) (h : Step g x s what s') : s'.Drains x w := by
  cases h with
  | arrive event => cases hp
  | take ht => exact ⟨hs.toLined.take ht, hs.toCleared.take ht⟩
  | intake hl ht => rw [none] at hl; exact absurd hl (by simp)
  | @handling as bs h t w' what hl ht =>
    have hh : h ∈ s.handlings := by simp [hl]
    have alive' := ht.alive.2
    cases sound.handling_advances hh ht with
    | asked _ still same =>
      have brokers : w'.broker = s.world.broker := congrArg Record.broker same
      refine ⟨hs.toLined.of_passes hl rfl rfl ?_, hs.toCleared.of_settles hl rfl alive' ?_⟩
      · exact .same (by rw [still]) rfl (by rw [brokers])
      · exact .same (by rw [still]) (by rw [brokers]) (by rw [brokers])
    | @answered r a hr ha _ next hold =>
      have account : (x.account h.delivery).allows h.thread.past r := by
        have allowed := ht.allowed (accounts h hh)
        rwa [TaskHandler.standing_account] at allowed
      obtain ⟨passes, settles⟩ :
          HandlingStanding.Passes x h.delivery h.origin h.standing (h.standing.after ⟨r, a⟩)
              s.ledger _ s.world.broker w'.broker ∧
            HandlingStanding.Settles h.delivery h.standing (h.standing.after ⟨r, a⟩)
              s.world.broker w'.broker :=
        HandlingStanding.change_of_answer hr account ha hp (hs.settled h hh) hold
      rw [← next] at passes settles
      exact ⟨hs.toLined.of_passes hl rfl rfl passes, hs.toCleared.of_settles hl rfl alive' settles⟩
  | crashIntake hl => rw [none] at hl; exact absurd hl (by simp)
  | crashHandling => cases hp
  | @drift w' hd =>
    have brokers : w'.broker = s.world.broker := congrArg Record.broker hd.2
    obtain ⟨⟨traced, waiting, taken, lanes⟩, ⟨lives, settled, inFlight, buried⟩⟩ := hs
    rw [← brokers] at traced lanes inFlight buried
    exact ⟨⟨traced, waiting, taken, lanes⟩, ⟨lives, settled, inFlight, buried⟩⟩
  | intrude store =>
    obtain ⟨⟨traced, waiting, taken, lanes⟩, ⟨lives, settled, inFlight, buried⟩⟩ := hs
    exact ⟨⟨traced, waiting, taken, lanes⟩, ⟨lives, settled, inFlight, buried⟩⟩

theorem Reaches.no_intakes (run : Reaches g x draining (queued w) s) : s.intakes = [] :=
  List.eq_nil_iff_forall_not_mem.2 fun i hi => by cases event_permitted rfl run i hi

theorem Reaches.sound (run : Reaches g x draining (queued w) s) : s.Sound g x :=
  (Sound.of_idle rfl rfl).reaches run

theorem Reaches.drains (run : Reaches g x draining (queued w) s) : s.Drains x w := by
  induction run with
  | refl => exact ⟨.of_queued x w, .of_queued w⟩
  | step run hp h ih =>
    exact ih.step run.sound run.no_intakes (keeps_of_reaches x.account_serve rfl run) hp h

/-- No more calls are begun than the messages can be taken. -/
theorem Lined.length_le (hs : s.Lined x w) :
    s.handlings.length ≤ (w.broker.ready.map x.tries).sum := by
  calc s.handlings.length
    _ = ∑ i : Fin w.broker.ready.length, (laneOf s.handlings i).length :=
      length_eq_sum_lanes hs.taken
    _ ≤ ∑ i : Fin w.broker.ready.length, x.tries w.broker.ready[i] := by
      refine Finset.sum_le_sum fun i _ => ?_
      exact Nat.le_of_add_right_le (hs.lanes i _ (List.getElem?_eq_getElem i.isLt)).length_le
    _ = (w.broker.ready.map x.tries).sum := Fin.sum_univ_fun_getElem ..

end Traffic
end ReplyPipeline
