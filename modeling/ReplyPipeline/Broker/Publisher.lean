import ReplyPipeline.Broker.Remote

/-!
# Publishers that share a slot

One caller at a time has the slot, and the others wait for it in the order in which they came. A
caller keeps the slot until its operation ends or is cut off; then the first that waits has it. An
operation is cut off in two ways. When the caller's own time is up it empties the slot, unless
somebody has it, be it only that it has just been passed on. When it is abandoned from outside it
does nothing any more.
-/
namespace ReplyPipeline.Broker

abbrev Caller := Nat

structure PublisherCall where
  caller : Caller
  program : ClientAction (Except Error Unit)

/-- Who has the slot. -/
inductive SlotHolder where
  | ready (call : PublisherCall)
  /-- The caller waits for an answer that does not come. -/
  | stalled (caller : Caller)

def SlotHolder.caller : SlotHolder → Caller
  | .ready call => call.caller
  | .stalled caller => caller

/-- The slot, who has it, who waits for it, and how the calls ended that were not abandoned. -/
structure Publisher where
  slot : Option ChannelId := none
  holder : Option SlotHolder := none
  waiting : List PublisherCall := []
  ended : List (Caller × Except Error Unit) := []

namespace Publisher

def enter (p : Publisher) (call : PublisherCall) : Publisher :=
  match p.holder with
  | none => { p with holder := some (.ready call) }
  | some _ => { p with waiting := p.waiting ++ [call] }

/-- The slot goes to the first that waits. -/
def passOn (p : Publisher) : Publisher :=
  { p with holder := p.waiting.head?.map .ready, waiting := p.waiting.tail }

/-- The caller that has the slot goes on until its operation ends or the server falls silent. -/
def serve {σ : Type} (answer : Answering σ) (p : Publisher) (s : σ) : Publisher × σ :=
  match p.holder with
  | some (.ready call) =>
    match ClientAction.run answer call.program p.slot s with
    | (some result, slot, s) =>
      ({ p with slot, ended := (call.caller, result) :: p.ended }.passOn, s)
    | (none, slot, s) => ({ p with slot, holder := some (.stalled call.caller) }, s)
  | _ => (p, s)

def abandon (p : Publisher) (caller : Caller) : Publisher :=
  if p.holder.any fun h => h.caller = caller then p.passOn
  else { p with waiting := p.waiting.filter fun call => call.caller != caller }

def timeOut (p : Publisher) (limit : Span) (caller : Caller) : Publisher :=
  let p := p.abandon caller
  let slot := if p.holder.isNone then none else p.slot
  { p with slot, ended := (caller, .error (.timeout limit)) :: p.ended }

end Publisher
end ReplyPipeline.Broker
