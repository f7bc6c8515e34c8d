import ReplyPipeline.Simulation.Scheduler

/-!
# Programs that are carried out alone

A program can be carried out on anything that answers its requests. In a world in which nobody else
is at work a request is answered at once, or else at its alarm; the scheduler comes to the same
result (`Simulation.runUntil_of_carryOut`).
-/
namespace ReplyPipeline

namespace Program

variable {S : Signature} {σ α β : Type}

/-- Carries a program out on a state that answers its requests, as far as it answers them. -/
def carryOut (ask : (r : S.Request) → σ → Option (S.Answer r × σ)) :
    Program S α → σ → Option (α × σ)
  | .done a, s => some (a, s)
  | .call r next, s => (ask r s).bind fun (a, s) => (next a).carryOut ask s

variable {ask : (r : S.Request) → σ → Option (S.Answer r × σ)}

@[simp] theorem carryOut_done (a : α) (s : σ) :
    (done a : Program S α).carryOut ask s = some (a, s) := rfl

theorem carryOut_call {r : S.Request} {next : S.Answer r → Program S α} {s s' : σ}
    {a : S.Answer r} (h : ask r s = some (a, s')) :
    (call r next).carryOut ask s = (next a).carryOut ask s' := by
  rw [carryOut, h]
  rfl

theorem carryOut_bind (p : Program S α) (f : α → Program S β) (s : σ) :
    (p.bind f).carryOut ask s = (p.carryOut ask s).bind fun (a, s) => (f a).carryOut ask s := by
  induction p generalizing s with
  | done a => rfl
  | call r next ih =>
    rw [call_bind, carryOut, carryOut]
    cases ask r s with
    | none => rfl
    | some x => exact ih x.1 x.2

theorem carryOut_bind_of {p : Program S α} {f : α → Program S β} {s s' : σ} {a : α}
    (h : p.carryOut ask s = some (a, s')) :
    (p.bind f).carryOut ask s = (f a).carryOut ask s' := by
  rw [carryOut_bind, h]
  rfl

end Program

/-- The world at a moment, unless that has passed. -/
def World.wait (w : World) (m : Moment) : World := { w with now := max w.now m }

theorem World.wait_of_le {w : World} {m : Moment} (h : m ≤ w.now) : w.wait m = w := by
  rw [wait, Nat.max_eq_left h]

theorem World.wait_of_ge {w : World} {m : Moment} (h : w.now ≤ m) :
    w.wait m = { w with now := m } := by
  rw [wait, Nat.max_eq_right h]

namespace Wait

variable {α : Type}

/-- What is waited for, in a world in which only the clock goes on. -/
def await (wait : Wait α) (w : World) : Option (α × World) :=
  (wait.poll w).or (wait.alarm.bind fun m => wait.poll (w.wait m))

@[simp] theorem await_atOnce (answer : World → α × World) (w : World) :
    (atOnce answer).await w = some (answer w) := rfl

@[simp] theorem await_till (m : Moment) (answer : World → α × World) (w : World) :
    (till m answer).await w = some (answer (w.wait m)) := by
  by_cases past : m ≤ w.now
  · simp [await, till, past, World.wait_of_le past]
  · have reached : m ≤ (w.wait m).now := Nat.le_max_right ..
    simp only [await, till, if_neg past, if_pos reached, Option.none_or, Option.bind_some]

end Wait

namespace World

/-- A declaration of the topology that takes some time, if it is not cut off before. -/
def declareIn (w : World) (time : Nat) (deadline : Option Moment) :
    Wait (Option (Except Broker.Error Unit)) :=
  w.taking time deadline
    (fun w =>
      let (outcome, w) := w.declareTopology
      (some outcome, w))
    (fun w => (none, w))

/-- The answer of a world in which nobody else is at work, where a declaration of the topology takes
some time. -/
def ask (declaring : Nat) : (r : PipelineRequest) → World → Option (r.Answer × World)
  | .declareTopology deadline, w => (w.declareIn declaring deadline).await w
  | r, w => (w.begin r).2.await (w.begin r).1

theorem ask_zero (r : PipelineRequest) (w : World) :
    ask 0 r w = (w.begin r).2.await (w.begin r).1 := by
  cases r <;> rfl

theorem await_taking {α : Type} (w : World) (time : Nat) {deadline : Moment}
    (answer late : World → α × World) (ahead : w.now ≤ deadline) :
    (w.taking time (some deadline) answer late).await w =
      some (if w.now + time ≤ deadline then answer (w.wait (w.now + time))
        else late (w.wait deadline)) := by
  unfold taking
  split
  next none =>
    subst none
    rw [Nat.add_zero, if_pos ahead, Wait.await_atOnce, wait_of_le (Nat.le_refl _)]
  next =>
    simp only
    split <;> rw [Wait.await_till]

end World

namespace Progress

variable {α : Type}

/-- A program that has been run until it has to wait comes to its result when the clock alone goes
on. -/
inductive Comes (a : α) (w' : World) : Progress α → World → Prop where
  | finished : Comes a w' (.finished a) w'
  | woken {rest : Wait (Action α)} {w w₁ : World} {m : Moment} {p : Action α} :
    rest.poll w = none → rest.alarm = some m → rest.poll (w.wait m) = some (p, w₁) →
      Comes a w' (run p w₁).1 (run p w₁).2 → Comes a w' (.waiting rest) w

theorem comes_of_carryOut {p : Action α} {w w' : World} {a : α}
    (h : p.carryOut (World.ask 0) w = some (a, w')) : Comes a w' (run p w).1 (run p w).2 := by
  induction p generalizing w with
  | done b =>
    cases h
    exact .finished
  | call r next ih =>
    obtain ⟨⟨b, w₁⟩, asked, rest⟩ := Option.bind_eq_some_iff.1 h
    replace asked := (World.ask_zero r w).symm.trans asked
    unfold run
    rcases Option.or_eq_some_iff.1 asked with now | ⟨later, woken⟩
    · simp only [now]
      exact ih b rest
    · obtain ⟨m, alarm, woken⟩ := Option.bind_eq_some_iff.1 woken
      simp only [later]
      refine .woken (by simp [later]) alarm (p := next b) ?_ (ih b rest)
      exact Option.map_eq_some_iff.2 ⟨(b, w₁), woken, rfl⟩

theorem Comes.resume_eq {p : Progress α} {w w' : World} {a : α} (h : p.Comes a w' w) :
    p.resume w = (p, w) := by
  cases h with
  | finished => rfl
  | woken asleep => simp only [resume, asleep]

end Progress

namespace Simulation

variable {α : Type} {w w' : World} {a : α}

/-- Where no worker is at work the clock jumps to the alarm of the program. -/
theorem runUntil_of_comes {p : Progress α} (h : p.Comes a w' w) :
    ∃ n, ∀ turns, n ≤ turns → runUntil none turns [p] ⟨w, []⟩ = ([.finished a], ⟨w', []⟩) := by
  induction h with
  | finished =>
    refine ⟨1, fun turns ht => ?_⟩
    obtain ⟨turns, rfl⟩ := Nat.exists_eq_add_of_le' ht
    rfl
  | @woken rest w w₁ m p asleep alarm awake h ih =>
    obtain ⟨n, ih⟩ := ih
    refine ⟨n + 2, fun turns ht => ?_⟩
    obtain ⟨turns, rfl⟩ := Nat.exists_eq_add_of_le' ht
    have first : runUntil none (turns + (n + 2)) [.waiting rest] ⟨w, []⟩ =
        runUntil none (turns + (n + 1)) [.waiting rest] ⟨w.wait m, []⟩ := by
      rw [show turns + (n + 2) = turns + (n + 1) + 1 from rfl, runUntil]
      simp [resumeAll, Progress.resume, asleep, Progress.result?, jump, Progress.alarm?, alarm,
        World.wait]
    have second : runUntil none (turns + (n + 1)) [.waiting rest] ⟨w.wait m, []⟩ =
        runUntil none (turns + (n + 1)) [(Progress.run p w₁).1] ⟨(Progress.run p w₁).2, []⟩ := by
      have up : (Progress.waiting rest).resume (w.wait m) = Progress.run p w₁ := by
        simp only [Progress.resume, awake]
      rw [← Nat.add_assoc, runUntil, runUntil]
      simp only [resumeAll, up, h.resume_eq]
      rfl
    rw [first, second]
    exact ih _ (by omega)

/-- With no worker at work the scheduler does with a program what `Program.carryOut` does. -/
theorem runUntil_of_carryOut {p : Action α} (h : p.carryOut (World.ask 0) w = some (a, w')) :
    ∃ n, ∀ turns, n ≤ turns →
      runUntil none turns [(Progress.run p w).1] ⟨(Progress.run p w).2, []⟩ =
        ([.finished a], ⟨w', []⟩) :=
  runUntil_of_comes (Progress.comes_of_carryOut h)

end Simulation
end ReplyPipeline
