import ReplyPipeline.Proofs.Entries
import ReplyPipeline.Proofs.IntakeAccounts
import ReplyPipeline.Proofs.Playing

/-!
# Chronicles

A run with all its exchanges written down in their order: whose each was, and how things stood
before it was answered. What one program has done is a part of this, and every beginning of a
chronicle is the chronicle of a run that led up to the next exchange. So what happened between two
exchanges of one program, and who was the last to write to a key, can be said.
-/
namespace ReplyPipeline

namespace Exchange

/-- What it does to the store at a moment. -/
def onStore (m : Store.Memory) (now : Moment) : Exchange → Store.Memory
  | ⟨.store c _, .ok _⟩ => (m.perform now c).2
  | _ => m

/-- An entry got under a key. -/
def puts (key : String) : Exchange → Bool
  | ⟨.store c _, .ok a⟩ => Store.Memory.puts key c a
  | _ => false

end Exchange

namespace Record

variable {m m' : Record}

theorem Answers.store_eq {r : PipelineRequest} {a : r.Answer} (h : m.Answers r a m') :
    m'.store = Exchange.onStore m.store m.now ⟨r, a⟩ := by
  cases r with
  | store c limit => rcases h with ⟨rfl, rfl⟩ | ⟨⟨e, rfl⟩, rfl⟩ <;> rfl
  | now => rw [h.2]; rfl
  | tally c => rw [show m' = _ from h]; rfl
  | drop d => rw [show m' = _ from h]; rfl
  | leave c => rw [show m' = _ from h]; rfl
  | next c stop limit => rcases h with ⟨_, _, -, -, rfl⟩ | rfl <;> rfl
  | declareTopology deadline => rcases h with ⟨-, rfl⟩ | ⟨-, rfl⟩ <;> rfl
  | publish e deadline => rcases h with ⟨-, rfl⟩ | ⟨-, rfl⟩ <;> rfl
  | reply => rcases h with ⟨-, rfl⟩ | ⟨-, rfl⟩ <;> rfl
  | settle d how => rcases h with ⟨-, rfl⟩ | ⟨-, rfl⟩ <;> rfl
  | consume => rcases h with ⟨-, rfl⟩ | ⟨-, rfl⟩ <;> rfl
  | _ => rw [show m' = m from h]; rfl

theorem Answers.eq_perform {c : Store.Call} {limit : Option Span} {a : c.Answer}
    (h : m.Answers (.store c limit) (.ok a) m') : a = (m.store.perform m.now c).1 := by
  rcases h with ⟨h, -⟩ | ⟨⟨e, h⟩, -⟩
  · exact Except.ok.inj h
  · cases h

end Record

/-- A program of a traffic, by its place. -/
inductive Party where
  | intake (k : Nat)
  | handling (k : Nat)
  deriving DecidableEq, Repr

/-- An exchange of a run. -/
structure Deed where
  party : Party
  /-- The lasting parts of the world before the answer. -/
  before : Record
  exchange : Exchange

/-- The exchanges of a run, the latest first. -/
abbrev Chronicle := List Deed

namespace Chronicle

/-- The chronicle after a step of a program, made in a world. -/
def note (log : Chronicle) (p : Party) (w : World) : Happening → Chronicle
  | .answered y => ⟨p, w.record, y⟩ :: log
  | _ => log

/-- What one program has done. -/
def of (log : Chronicle) (p : Party) : History := (log.filter (·.party = p)).map (·.exchange)

@[simp] theorem of_nil (p : Party) : of [] p = [] := rfl

theorem of_cons (d : Deed) (log : Chronicle) (p : Party) :
    of (d :: log) p = if d.party = p then d.exchange :: log.of p else log.of p := by
  unfold of
  rw [List.filter_cons]
  split <;> simp_all

theorem mem_of {log : Chronicle} {p : Party} {y : Exchange} (h : y ∈ log.of p) :
    ∃ d ∈ log, d.party = p ∧ d.exchange = y := by
  obtain ⟨d, hd, rfl⟩ := List.mem_map.1 h
  obtain ⟨hd, own⟩ := List.mem_filter.1 hd
  exact ⟨d, hd, of_decide_eq_true own, rfl⟩

theorem mem_of_party {log : Chronicle} {p : Party} {d : Deed} (h : d ∈ log) (own : d.party = p) :
    d.exchange ∈ log.of p :=
  List.mem_map_of_mem (List.mem_filter.2 ⟨h, decide_eq_true own⟩)

end Chronicle

/-- The step is not one of a program. -/
def Happening.isForeign : Happening → Bool
  | .asked _ => false
  | .answered _ => false
  | _ => true

namespace Thread

variable {α : Type} {t t' : Thread α} {w w' : World} {what : Happening}

theorem Step.isForeign (h : t.Step w what t' w') : what.isForeign = false := by
  cases h <;> rfl

theorem Step.store_eq (h : t.Step w what t' w') :
    (∃ r, what = .asked r) ∧ w'.store = w.store ∨
      ∃ y, what = .answered y ∧ w'.store = y.onStore w.store w.now := by
  rcases h.cases with ⟨r, asked, -, same⟩ | ⟨y, answered, -, answers⟩
  · exact .inl ⟨⟨r, asked⟩, congrArg Record.store same⟩
  · exact .inr ⟨y, answered, answers.store_eq⟩

end Thread

namespace Traffic

/-- What can come of a start by steps of a permitted kind, and its chronicle. -/
inductive Chronicled (g : Gateway) (x : TaskHandler) (permits : Happening → Bool)
    (start : Traffic) : Traffic → Chronicle → Prop
  | start : Chronicled g x permits start start []
  | intake {s : Traffic} {log : Chronicle} {as bs : List Intake} {i : Intake}
      {t : Thread GatewayAnswer} {w : World} {what : Happening} :
      Chronicled g x permits start s log → permits what → s.intakes = as ++ i :: bs →
      i.thread.Step s.world what t w →
      Chronicled g x permits start
        { s with
          world := w
          intakes := as ++ { i with thread := t } :: bs
          ledger := s.ledger.after (some as.length) s.world.broker what }
        (log.note (.intake as.length) s.world what)
  | handling {s : Traffic} {log : Chronicle} {as bs : List Handling} {h : Handling}
      {t : Thread DeliveryOutcome} {w : World} {what : Happening} :
      Chronicled g x permits start s log → permits what → s.handlings = as ++ h :: bs →
      h.thread.Step s.world what t w →
      Chronicled g x permits start
        { s with
          world := w
          handlings := as ++ { h with thread := t } :: bs
          ledger := s.ledger.after h.origin s.world.broker what }
        (log.note (.handling as.length) s.world what)
  | foreign {s s' : Traffic} {log : Chronicle} {what : Happening} :
      Chronicled g x permits start s log → permits what → what.isForeign = true →
      Step g x s what s' → Chronicled g x permits start s' log

variable {g : Gateway} {x : TaskHandler} {permits : Happening → Bool} {start s : Traffic}
  {log older newer : Chronicle} {d : Deed}

theorem Chronicled.reaches (h : Chronicled g x permits start s log) :
    Reaches g x permits start s := by
  induction h with
  | start => exact .refl
  | intake _ hp hl ht ih => exact ih.step hp (.intake hl ht)
  | handling _ hp hl ht ih => exact ih.step hp (.handling hl ht)
  | foreign _ hp _ hs ih => exact ih.step hp hs

/-- An exchange is what a program of the traffic does next. -/
def Does (s : Traffic) (d : Deed) : Prop :=
  d.before = s.world.record ∧
    match d.party with
    | .intake k =>
      ∃ i t w, s.intakes[k]? = some i ∧ i.thread.Step s.world (.answered d.exchange) t w
    | .handling k =>
      ∃ h t w, s.handlings[k]? = some h ∧ h.thread.Step s.world (.answered d.exchange) t w

theorem Chronicled.before (h : Chronicled g x permits start s (newer ++ d :: older)) :
    ∃ s₁, Chronicled g x permits start s₁ older ∧ permits (.answered d.exchange) = true ∧
      s₁.Does d := by
  generalize hl : newer ++ d :: older = log at h
  induction h generalizing newer with
  | start => exact absurd hl (by simp)
  | @intake s log as bs i t w what run hp place ht ih =>
    cases what with
    | answered y =>
      obtain ⟨rfl, hl⟩ | ⟨newer', rfl, hl⟩ := List.append_eq_cons_iff.1 hl
      · cases hl
        exact ⟨s, run, hp, rfl, i, t, w, by simp [place], ht⟩
      · exact ih (show newer' ++ d :: older = log from (List.cons.inj hl).2)
    | _ => exact ih hl
  | @handling s log as bs j t w what run hp place ht ih =>
    cases what with
    | answered y =>
      obtain ⟨rfl, hl⟩ | ⟨newer', rfl, hl⟩ := List.append_eq_cons_iff.1 hl
      · cases hl
        exact ⟨s, run, hp, rfl, j, t, w, by simp [place], ht⟩
      · exact ih (show newer' ++ d :: older = log from (List.cons.inj hl).2)
    | _ => exact ih hl
  | foreign _ _ _ _ ih => exact ih hl

/-- The history of an intake is its part of the chronicle; an intake that has not arrived has
none. -/
theorem Chronicled.past_eq (none : start.intakes = []) (h : Chronicled g x permits start s log)
    (k : Nat) : log.of (.intake k) = ((s.intakes[k]?).map (·.thread.past)).getD [] := by
  have stays {s s' : Traffic} {log : Chronicle} {as bs : List Intake} {i i' : Intake}
      (hl : s.intakes = as ++ i :: bs) (hl' : s'.intakes = as ++ i' :: bs)
      (past : i'.thread.past = i.thread.past)
      (ih : log.of (.intake k) = ((s.intakes[k]?).map (·.thread.past)).getD []) :
      log.of (.intake k) = ((s'.intakes[k]?).map (·.thread.past)).getD [] := by
    rw [ih, hl, hl', getElem?_replaced as bs i i' k]
    split
    next hk => simp [hk, past]
    next => rfl
  induction h with
  | start => simp [none]
  | @intake s log as bs i t w what run hp hl ht ih =>
    rcases ht.cases with ⟨r, rfl, past, -⟩ | ⟨y, rfl, past, -⟩
    · exact stays hl rfl past ih
    · change Chronicle.of (⟨.intake as.length, s.world.record, y⟩ :: log) (.intake k) = _
      rw [Chronicle.of_cons, ih, hl, getElem?_replaced as bs i { i with thread := t } k]
      by_cases hk : k = as.length
      · simp [hk, past]
      · rw [if_neg hk, if_neg (fun h => hk (Party.intake.inj h).symm)]
  | @handling s log as bs h t w what run hp hl ht ih =>
    rcases ht.cases with ⟨r, rfl, -⟩ | ⟨y, rfl, -⟩
    · exact ih
    · refine (Chronicle.of_cons ..).trans ?_
      rw [if_neg nofun]
      exact ih
  | @foreign s s' log what run hp foreign step ih =>
    cases step with
    | arrive event =>
      rw [ih, List.getElem?_append]
      split
      next => rfl
      next beyond =>
        rw [List.getElem?_eq_none (Nat.le_of_not_lt beyond), List.getElem?_singleton]
        split <;> rfl
    | intake hl ht => exact absurd foreign (Bool.eq_false_iff.1 ht.isForeign)
    | crashIntake hl => exact stays hl rfl rfl ih
    | _ => exact ih

theorem Does.answers (h : s.Does d) :
    ∃ m', s.world.record.Answers d.exchange.request d.exchange.answer m' := by
  obtain ⟨party, before, ⟨r, a⟩⟩ := d
  obtain ⟨-, h⟩ := h
  cases party with
  | intake k =>
    obtain ⟨i, t, w, -, step⟩ := h
    exact ⟨_, step.answers⟩
  | handling k =>
    obtain ⟨j, t, w, -, step⟩ := h
    exact ⟨_, step.answers⟩

theorem Chronicled.accounted (none : start.intakes = []) (run : Chronicled g x permits start s log)
    (h : s.Does d) {k : Nat} (own : d.party = .intake k) :
    ∃ i ∈ s.intakes, (g.account i.event).allows (log.of (.intake k)) d.exchange.request := by
  obtain ⟨party, before, y⟩ := d
  subst own
  obtain ⟨-, i, t, w, hi, step⟩ := h
  have place := List.mem_of_getElem? hi
  have keeps := keeps_account_of_reaches none run.reaches i place
  refine ⟨i, place, ?_⟩
  rw [run.past_eq none k, hi]
  change (g.account i.event).allows i.thread.past y.request
  have allowed := step.allowed keeps
  rwa [Gateway.standing_account] at allowed

theorem Chronicled.calls {id : CorrelationId} (none : start.intakes = [])
    (ids : ∀ event, permits (.arrived event) = true → event.correlationId? = some id)
    (run : Chronicled g x permits start s log) (does : s.Does d) {k : Nat}
    (own : d.party = .intake k) (call : Store.Call) (limit : Option Span)
    (asked : d.exchange.request = .store call limit) :
    g.Calls id (log.of (.intake k)) (.store call limit) := by
  obtain ⟨i, hi, allowed⟩ := run.accounted none does own
  rw [asked] at allowed
  obtain ⟨id', named, calls⟩ := allowed
  obtain rfl : id = id' :=
    Option.some.inj ((ids _ (event_permitted none run.reaches i hi)).symm.trans named)
  exact calls

theorem Chronicled.lock_of_puts {id : CorrelationId} {key : String} (none : start.intakes = [])
    (ids : ∀ event, permits (.arrived event) = true → event.correlationId? = some id)
    (run : Chronicled g x permits start s log) (does : s.Does d) {k : Nat}
    (own : d.party = .intake k) (puts : d.exchange.puts key = true) :
    d.exchange = ⟨g.idempotency.lockRequest id, (.ok true : Except Store.Error Bool)⟩ ∧
      key = g.idempotency.lockKey id := by
  have calls := run.calls none ids does own
  generalize d.exchange = y at calls puts ⊢
  obtain ⟨r, a⟩ := y
  cases r with
  | store call limit =>
    match a with
    | .error _ => cases puts
    | .ok answer =>
      rcases calls call limit rfl with ⟨same, -⟩ | ⟨same, -⟩ | ⟨same, -⟩ <;> cases same
      · cases puts
      · obtain ⟨taken, there⟩ := Bool.and_eq_true_iff.1 puts
        exact ⟨by rw [show answer = true from taken]; rfl, (beq_iff_eq.1 there).symm⟩
      · cases puts
  | _ => cases puts

/-- What holds of the store at the beginning, is kept by the passing of time, and is kept by every
exchange, holds all along a run in which nobody else writes to the store. -/
theorem Chronicled.store_induction (closed : permits .intruded = false)
    {P : Chronicle → Store.Memory → Moment → Prop}
    (first : P [] start.world.store start.world.now)
    (later : ∀ {log m now now'}, P log m now → now ≤ now' → P log m now')
    (deed : ∀ {s log d}, Chronicled g x permits start s log → s.Does d →
      permits (.answered d.exchange) = true → P log s.world.store s.world.now →
      P (d :: log) (d.exchange.onStore s.world.store s.world.now) s.world.now)
    (run : Chronicled g x permits start s log) : P log s.world.store s.world.now := by
  induction run with
  | start => exact first
  | @intake s log as bs i t w what run hp hl ht ih =>
    change P _ w.store w.now
    rw [ht.now_eq]
    rcases ht.store_eq with ⟨⟨r, rfl⟩, store⟩ | ⟨y, rfl, store⟩ <;> rw [store]
    · exact ih
    · exact deed run ⟨rfl, i, t, w, by simp [hl], ht⟩ hp ih
  | @handling s log as bs h t w what run hp hl ht ih =>
    change P _ w.store w.now
    rw [ht.now_eq]
    rcases ht.store_eq with ⟨⟨r, rfl⟩, store⟩ | ⟨y, rfl, store⟩ <;> rw [store]
    · exact ih
    · exact deed run ⟨rfl, h, t, w, by simp [hl], ht⟩ hp ih
  | foreign run hp foreign step ih =>
    cases step with
    | @drift w hd =>
      have stores : w.store = _ := congrArg Record.store hd.2
      change P _ w.store w.now
      rw [stores]
      exact later ih hd.1
    | intrude => exact absurd hp (by simp [closed])
    | intake hl ht => exact absurd foreign (Bool.eq_false_iff.1 ht.isForeign)
    | handling hl ht => exact absurd foreign (Bool.eq_false_iff.1 ht.isForeign)
    | _ => exact ih

end Traffic

def Move.party? : Move → Option Party
  | .intake k => some (.intake k)
  | .handling k => some (.handling k)
  | _ => none

namespace Traffic

variable {g : Gateway} {x : TaskHandler} {permits : Happening → Bool} {start s s' : Traffic}
  {log : Chronicle}

def noted (s : Traffic) (log : Chronicle) (m : Move) (what : Happening) : Chronicle :=
  match m.party? with
  | some p => log.note p s.world what
  | none => log

theorem Chronicled.move (run : Chronicled g x permits start s log) {m : Move} {what : Happening}
    (hp : permits what = true) (h : s.move? g x m = some (what, s')) :
    Chronicled g x permits start s' (s.noted log m what) := by
  have step := step_of_move? h
  cases m with
  | intake k =>
    obtain ⟨i, hi, h⟩ := Option.bind_eq_some_iff.1 h
    obtain ⟨⟨what', t, w⟩, ht, heq⟩ := Option.bind_eq_some_iff.1 h
    cases heq
    obtain ⟨place, length⟩ := append_cons_of_getElem? hi
    have next := run.intake hp place (Thread.step_of_step? ht)
    rwa [length] at next
  | handling k =>
    obtain ⟨i, hi, h⟩ := Option.bind_eq_some_iff.1 h
    obtain ⟨⟨what', t, w⟩, ht, heq⟩ := Option.bind_eq_some_iff.1 h
    cases heq
    obtain ⟨place, length⟩ := append_cons_of_getElem? hi
    have next := run.handling hp place (Thread.step_of_step? ht)
    rwa [length] at next
  | take =>
    obtain ⟨⟨d, b⟩, -, heq⟩ := Option.map_eq_some_iff.1 h
    cases heq
    exact run.foreign hp rfl step
  | cut k =>
    obtain ⟨i, -, cut⟩ := Option.bind_eq_some_iff.1 h
    split at cut
    · cases cut
      exact run.foreign hp rfl step
    · cases cut
  | arrive event => cases h; exact run.foreign hp rfl step
  | wait nanos => cases h; exact run.foreign hp rfl step
  | fault p uses => cases h; exact run.foreign hp rfl step
  | breakStore failing => cases h; exact run.foreign hp rfl step

/-- What comes of moves that are all possible and permitted, with its chronicle. -/
def chronicle? (g : Gateway) (x : TaskHandler) (permits : Happening → Bool) (s : Traffic)
    (log : Chronicle) : List Move → Option (Traffic × Chronicle)
  | [] => some (s, log)
  | m :: moves =>
    match s.move? g x m with
    | some (what, s') =>
      if permits what then s'.chronicle? g x permits (s.noted log m what) moves else none
    | none => none

theorem Chronicled.of_chronicle? (run : Chronicled g x permits start s log) {moves : List Move}
    {log' : Chronicle} (h : s.chronicle? g x permits log moves = some (s', log')) :
    Chronicled g x permits start s' log' := by
  induction moves generalizing s log with
  | nil => cases h; exact run
  | cons m moves ih =>
    unfold chronicle? at h
    split at h
    next what s₁ hm =>
      split at h
      · exact ih (run.move ‹_› hm) h
      · cases h
    · cases h

/-- A run that can be played and whose chronicle has a property gives a chronicle that has it. -/
theorem chronicled_of_play? (g : Gateway) (x : TaskHandler) (permits : Happening → Bool)
    (start : Traffic) (moves : List Move) (ends : Traffic × Chronicle → Bool)
    (h : (start.chronicle? g x permits [] moves).any ends = true) :
    ∃ s log, Chronicled g x permits start s log ∧ ends (s, log) = true := by
  obtain ⟨⟨s, log⟩, hs, he⟩ := (Option.any_eq_true ..).1 h
  exact ⟨s, log, .of_chronicle? .start hs, he⟩

end Traffic
end ReplyPipeline
