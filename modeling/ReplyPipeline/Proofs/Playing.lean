import ReplyPipeline.Proofs.Places
import ReplyPipeline.Proofs.Traffic

/-!
# Played runs

A run written down as moves can be played: each move either makes one step or is not possible
then. What is played can happen (`Traffic.reaches_of_play?`). The moves do not cover all steps:
the surroundings change only by time passing, by faults being put in, and by the store failing for
a while.
-/
namespace ReplyPipeline

/-- The step that a program can make now, if it can make one. -/
def Thread.step? {α : Type} (t : Thread α) (w : World) : Option (Happening × Thread α × World) :=
  match t with
  | ⟨.call r next, past, none, true⟩ =>
    some (.asked r, ⟨.call r next, past, some w, true⟩, (w.begin r).1)
  | ⟨.call r next, past, some w₀, true⟩ =>
    ((w₀.begin r).2.poll w).map fun (a, w') =>
      (.answered ⟨r, a⟩, ⟨next a, ⟨r, a⟩ :: past, none, true⟩, w')
  | _ => none

theorem Thread.step_of_step? {α : Type} {t t' : Thread α} {w w' : World} {what : Happening}
    (h : t.step? w = some (what, t', w')) : t.Step w what t' w' := by
  unfold step? at h
  split at h
  · cases h
    exact .ask
  · obtain ⟨⟨a, w₁⟩, hp, heq⟩ := Option.map_eq_some_iff.1 h
    cases heq
    exact .answer hp
  · cases h

/-- A move of a run that is written down. -/
inductive Move where
  | arrive (event : Event)
  | take
  /-- The intake with this place makes a step. -/
  | intake (k : Nat)
  /-- The handling with this place makes a step. -/
  | handling (k : Nat)
  /-- The handling with this place is cut off. -/
  | cut (k : Nat)
  | wait (nanos : Nat)
  | fault (p : FaultPoint) (uses : Nat)
  /-- The store begins to fail, or to work again. -/
  | breakStore (failing : Bool)

namespace Traffic

variable {g : Gateway} {x : TaskHandler} {permits : Happening → Bool}

/-- The traffic after a move. -/
def move? (g : Gateway) (x : TaskHandler) (s : Traffic) : Move → Option (Happening × Traffic)
  | .arrive event =>
    some (.arrived event, { s with intakes := s.intakes ++ [⟨event, { rest := g.handle event }⟩] })
  | .take =>
    (s.world.broker.take none).map fun (d, b) =>
      (.taken, { s with
        world := { s.world with broker := b }
        handlings := s.handlings ++
          [⟨d, s.ledger.ready.head?.join, s.world, { rest := x.serve d }⟩]
        ledger := { s.ledger with ready := s.ledger.ready.tail } })
  | .intake k => do
    let i ← s.intakes[k]?
    let (what, t, w) ← i.thread.step? s.world
    some (what, { s with
      world := w
      intakes := s.intakes.take k ++ { i with thread := t } :: s.intakes.drop (k + 1)
      ledger := s.ledger.after (some k) s.world.broker what })
  | .handling k => do
    let h ← s.handlings[k]?
    let (what, t, w) ← h.thread.step? s.world
    some (what, { s with
      world := w
      handlings := s.handlings.take k ++ { h with thread := t } :: s.handlings.drop (k + 1)
      ledger := s.ledger.after h.origin s.world.broker what })
  | .cut k => do
    let h ← s.handlings[k]?
    if h.thread.alive then
      some (.crashed, { s with
        world := { s.world with broker := s.world.broker.drop h.delivery.id }
        handlings := s.handlings.take k ++
          { h with thread := { h.thread with alive := false } } :: s.handlings.drop (k + 1)
        ledger := s.ledger.drop h.origin s.world.broker h.delivery.id })
    else none
  | .wait nanos => some (.drifted, { s with world := { s.world with now := s.world.now + nanos } })
  | .fault p uses => some (.drifted, { s with world := s.world.putFault p uses })
  | .breakStore failing =>
    some (.drifted, { s with world := { s.world with storeFailing := failing } })

theorem step_of_move? {s s' : Traffic} {m : Move} {what : Happening}
    (h : s.move? g x m = some (what, s')) : Step g x s what s' := by
  cases m with
  | arrive event => cases h; exact .arrive s event
  | take =>
    obtain ⟨⟨d, b⟩, ht, heq⟩ := Option.map_eq_some_iff.1 h
    cases heq
    exact .take ht
  | intake k =>
    obtain ⟨i, hi, h⟩ := Option.bind_eq_some_iff.1 h
    obtain ⟨⟨what', t, w⟩, ht, heq⟩ := Option.bind_eq_some_iff.1 h
    cases heq
    obtain ⟨place, length⟩ := append_cons_of_getElem? hi
    have step := Step.intake (g := g) (x := x) place (Thread.step_of_step? ht)
    rwa [length] at step
  | handling k =>
    obtain ⟨i, hi, h⟩ := Option.bind_eq_some_iff.1 h
    obtain ⟨⟨what', t, w⟩, ht, heq⟩ := Option.bind_eq_some_iff.1 h
    cases heq
    exact .handling (append_cons_of_getElem? hi).1 (Thread.step_of_step? ht)
  | cut k =>
    obtain ⟨i, hi, h⟩ := Option.bind_eq_some_iff.1 h
    split at h
    · cases h
      exact .crashHandling (append_cons_of_getElem? hi).1 ‹_›
    · cases h
  | wait nanos => cases h; exact .drift ⟨Nat.le_add_right .., rfl⟩
  | fault p uses => cases h; exact .drift ⟨Nat.le_refl _, rfl⟩
  | breakStore failing => cases h; exact .drift ⟨Nat.le_refl _, rfl⟩

/-- What comes of moves that are all possible and permitted. -/
def play? (g : Gateway) (x : TaskHandler) (permits : Happening → Bool) (s : Traffic) :
    List Move → Option Traffic
  | [] => some s
  | m :: moves =>
    match s.move? g x m with
    | some (what, s') => if permits what then s'.play? g x permits moves else none
    | none => none

theorem Reaches.of_play? {start s s' : Traffic} {moves : List Move}
    (hs : Reaches g x permits start s) (h : s.play? g x permits moves = some s') :
    Reaches g x permits start s' := by
  induction moves generalizing s with
  | nil => cases h; exact hs
  | cons m moves ih =>
    unfold play? at h
    split at h
    next what s₁ hm =>
      split at h
      · exact ih (hs.step ‹_› (step_of_move? hm)) h
      · cases h
    · cases h

/-- A run that can be played and has a property at its end gives a reachable traffic that has
it. -/
theorem reaches_of_play? (g : Gateway) (x : TaskHandler) (permits : Happening → Bool)
    (start : Traffic) (moves : List Move) (ends : Traffic → Bool)
    (h : (start.play? g x permits moves).any ends = true) :
    ∃ s, Reaches g x permits start s ∧ ends s = true := by
  obtain ⟨s, hs, he⟩ := (Option.any_eq_true ..).1 h
  exact ⟨s, .of_play? .refl hs, he⟩

def quiet : Traffic := { world := { wallClock := ⟨2026, 1, 1, 0, 0, 0, 0⟩ } }

end Traffic

/-- An event that the default filter accepts. -/
def Event.greeting : Event where
  type := some "message_created"
  id := some (.number 42)
  isPrivate := none
  content := some "hi"
  messageType := none
  sender := none
  agentBot := some (.bool true)
  account := none
  conversation := none
  inbox := none
  payload := .null

def CorrelationId.greeting : CorrelationId where
  text := "42"
  trim_text := by decide +kernel
  ne_empty := by decide
end ReplyPipeline
