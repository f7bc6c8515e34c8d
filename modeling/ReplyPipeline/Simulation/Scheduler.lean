import ReplyPipeline.Simulation.World

/-!
# Running programs in a world

Programs take turns. Each runs until a request of its has no answer yet; no time passes meanwhile.
The caller's own programs come first and then the workers, in the order in which they were started.
When none of them can go on, the clock jumps to the earliest alarm.
-/
namespace ReplyPipeline

/-- A program that has been started. -/
inductive Progress (α : Type) where
  | finished (a : α)
  | waiting (rest : Wait (Action α))

namespace Progress

/-- Runs a program until it has to wait. -/
def run {α : Type} : Action α → World → Progress α × World
  | .done a, w => (.finished a, w)
  | .call r next, w =>
    let (w, wait) := w.begin r
    match wait.poll w with
    | some (a, w) => run (next a) w
    | none =>
      (.waiting ⟨fun w => (wait.poll w).map fun (a, w) => (next a, w), wait.alarm⟩, w)

def resume {α : Type} : Progress α → World → Progress α × World
  | .finished a, w => (.finished a, w)
  | .waiting rest, w =>
    match rest.poll w with
    | some (p, w) => run p w
    | none => (.waiting rest, w)

def ready {α : Type} (w : World) : Progress α → Bool
  | .finished _ => false
  | .waiting rest => (rest.poll w).isSome

def result? {α : Type} : Progress α → Option α
  | .finished a => some a
  | .waiting _ => none

/-- When the clock will let the program go on. -/
def alarm? {α : Type} : Progress α → Option Moment
  | .finished _ => none
  | .waiting rest => rest.alarm

end Progress

structure RunningWorker where
  settings : Worker
  /-- The signal that stops it. -/
  stop : StopSignal
  progress : Progress WorkerPhase

namespace RunningWorker

def hasStopped (r : RunningWorker) : Bool :=
  match r.progress with
  | .finished .stopped => true
  | _ => false

def ready (w : World) (r : RunningWorker) : Bool :=
  match r.progress with
  | .finished .stopped => false
  | .finished _ => true
  | .waiting rest => (rest.poll w).isSome

/-- Goes on with a worker until it has to wait or has stopped, for a number of phases at most. -/
def resume : Nat → RunningWorker → World → RunningWorker × World
  | 0, r, w => (r, w)
  | phases + 1, r, w =>
    match r.progress.resume w with
    | (.finished .stopped, w) => ({ r with progress := .finished .stopped }, w)
    | (.finished phase, w) =>
      let (progress, w) := Progress.run (r.settings.step r.stop phase) w
      match progress with
      | .finished _ => resume phases { r with progress } w
      | .waiting _ => ({ r with progress }, w)
    | (.waiting rest, w) => ({ r with progress := .waiting rest }, w)

end RunningWorker

/-- A world and the workers in it. -/
structure Simulation where
  world : World
  workers : List RunningWorker := []

namespace Simulation

/-- How many phases a worker may go through before the others have their turn. -/
def phasesPerTurn : Nat := 1000000

def turns : Nat := 100000000

/-- Goes on with each of some things, one after the other. -/
def resumeAll {β : Type} (resume : β → World → β × World) : List β → World → List β × World
  | [], w => ([], w)
  | b :: rest, w =>
    let (b, w) := resume b w
    let (rest, w) := resumeAll resume rest w
    (b :: rest, w)

def startWorker (s : Simulation) (settings : Worker) (stop : StopSignal) : Simulation :=
  { s with workers := s.workers ++ [⟨settings, stop, .finished .connecting⟩] }

/-- A worker has stopped, if there is such a worker. -/
def hasStopped (s : Simulation) (stop : StopSignal) : Bool :=
  s.workers.all fun r => r.stop != stop || r.hasStopped

/-- The simulation at the earliest alarm. -/
def jump (s : Simulation) (alarms : List Moment) : Option Simulation :=
  let all := alarms ++ s.workers.filterMap fun r => r.progress.alarm?
  all.min?.map fun m => { s with world := { s.world with now := max s.world.now m } }

/-- Runs programs that have been started until they are finished and a worker has stopped. -/
def runUntil {α : Type} (join : Option StopSignal) :
    Nat → List (Progress α) → Simulation → List (Progress α) × Simulation
  | 0, ps, s => (ps, s)
  | fuel + 1, ps, s =>
    let (ps, world) := resumeAll Progress.resume ps s.world
    if ps.all (·.result?.isSome) && join.all s.hasStopped then (ps, { s with world })
    else if s.workers.any (·.ready world) then
      let (workers, world) := resumeAll (RunningWorker.resume phasesPerTurn) s.workers world
      runUntil join fuel ps ⟨world, workers⟩
    else
      match jump { s with world } (ps.filterMap Progress.alarm?) with
      | some s => runUntil join fuel ps s
      | none => (ps, { s with world })

def start {α : Type} (s : Simulation) : List (Action α) → List (Progress α) × Simulation
  | [] => ([], s)
  | p :: rest =>
    let (first, world) := Progress.run p s.world
    let (others, s) := start { s with world } rest
    (first :: others, s)

/-- Runs programs at once until all are finished; gives their results. -/
def runAll {α : Type} (s : Simulation) (programs : List (Action α)) : List α × Simulation :=
  let (started, s) := s.start programs
  let (ended, s) := runUntil none turns started s
  (ended.filterMap Progress.result?, s)

/-- Runs a program until it is finished; gives its result, unless it waits for something that
never comes. -/
def run {α : Type} (s : Simulation) (program : Action α) : Option α × Simulation :=
  let (results, s) := s.runAll [program]
  (results.head?, s)

/-- Lets time pass until a worker has stopped. -/
def awaitStopped (s : Simulation) (stop : StopSignal) : Simulation :=
  (runUntil (α := Unit) (some stop) turns [] s).2

end Simulation
end ReplyPipeline
