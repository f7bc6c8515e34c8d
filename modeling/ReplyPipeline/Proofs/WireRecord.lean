import Mathlib
import ReplyPipeline.Broker.Publisher

/-!
# What goes over the wire

The requests over the wire are written down with their answers. `ClientAction.Exchanges` says what a
program may put on the wire whatever the server does, be it that it falls silent at some request;
nothing more is asked then. A channel has failed with the first publication on it that is not
confirmed, and is left alone when nothing more is said on it and the next exchange is a connection
(`WireLog.LeavesFailed`).
-/
namespace ReplyPipeline.Broker

def WireRequest.channel? : WireRequest → Option ChannelId
  | .connect _ => none
  | .isOpen c => some c
  | .call c _ => some c
  | .publish c _ => some c

instance : (r : WireRequest) → DecidableEq r.Answer
  | .connect _ => inferInstanceAs (DecidableEq (Option ChannelId))
  | .isOpen _ => inferInstanceAs (DecidableEq Bool)
  | .call .. => inferInstanceAs (DecidableEq Bool)
  | .publish .. => inferInstanceAs (DecidableEq (Option Confirmation))

/-- A request over the wire and the answer; there is none if the server fell silent. -/
structure WireExchange where
  request : WireRequest
  answer : Option request.Answer
  deriving DecidableEq

namespace WireExchange

def opened? : WireExchange → Option ChannelId
  | ⟨.connect _, some (some c)⟩ => some c
  | _ => none

/-- The channel on which a publication was not confirmed, be it that there was no answer. -/
def failed? : WireExchange → Option ChannelId
  | ⟨.publish _ _, some (some .acked)⟩ => none
  | ⟨.publish c _, _⟩ => some c
  | _ => none

def isPublication : WireExchange → Bool
  | ⟨.publish .., _⟩ => true
  | _ => false

def isConnect : WireExchange → Bool
  | ⟨.connect _, _⟩ => true
  | _ => false

/-- What was said on a channel, and whether it was accepted. -/
def said? (c : ChannelId) : WireExchange → Option (Amqp.Method × Option Bool)
  | ⟨.call d m, accepted⟩ => if d = c then some (m, accepted) else none
  | _ => none

theorem failed?_eq_none {x : WireExchange} (h : x.isPublication = false) : x.failed? = none := by
  unfold failed?
  split
  · rfl
  · cases h
  · rfl

theorem channel?_of_failed? {x : WireExchange} {c : ChannelId} (h : x.failed? = some c) :
    x.request.channel? = some c := by
  unfold failed? at h
  split at h
  · cases h
  · exact h
  · cases h

theorem channel?_of_said? {x : WireExchange} {c : ChannelId} (h : (x.said? c).isSome = true) :
    x.request.channel? = some c := by
  unfold said? at h
  split at h
  · split at h
    next same => exact congrArg some same
    next => cases h
  · cases h

end WireExchange

/-- Requests over the wire and their answers, the earliest first. -/
abbrev WireLog := List WireExchange

namespace WireLog

def opened (log : WireLog) : List ChannelId := log.filterMap (·.opened?)

def said (c : ChannelId) (log : WireLog) : List (Amqp.Method × Option Bool) :=
  log.filterMap (·.said? c)

/-- The last exchange is a publication on a channel, and there is no answer. -/
def Awaits (c : ChannelId) (log : WireLog) : Prop :=
  ∃ earlier p, log = earlier ++ [⟨.publish c p, none⟩]

/-- A channel on which a publication was not confirmed is not used again, and the next exchange is a
connection. -/
structure LeavesFailed (log : WireLog) : Prop where
  unused : log.Pairwise fun x y => ∀ c ∈ x.failed?, y.request.channel? ≠ some c
  renewed : log.IsChain fun x y => x.failed?.isSome = true → y.isConnect = true

/-- Methods that were all accepted. -/
def accepted (c : ChannelId) (methods : List Amqp.Method) : WireLog :=
  methods.map fun m => ⟨.call c m, some true⟩

variable {log newer : WireLog} {c d : ChannelId} {methods : List Amqp.Method}

@[simp] theorem opened_append : opened (log ++ newer) = log.opened ++ newer.opened :=
  List.filterMap_append

@[simp] theorem said_append : said c (log ++ newer) = log.said c ++ newer.said c :=
  List.filterMap_append

theorem said_accepted : said c (accepted c methods) = methods.map (·, some true) := by
  induction methods with
  | nil => rfl
  | cons m methods ih =>
    have first : WireExchange.said? c ⟨.call c m, some true⟩ = some (m, some true) := if_pos rfl
    exact (List.filterMap_cons_some first).trans (congrArg _ ih)

theorem channel?_of_mem_accepted {x : WireExchange} (h : x ∈ accepted c methods) :
    x.request.channel? = some c := by
  obtain ⟨m, -, rfl⟩ := List.mem_map.1 h
  rfl

theorem isPublication_of_mem_accepted {x : WireExchange} (h : x ∈ accepted c methods) :
    x.isPublication = false := by
  obtain ⟨m, -, rfl⟩ := List.mem_map.1 h
  rfl

theorem leavesFailed_of_calm (calm : ∀ x ∈ log, x.failed? = none) : log.LeavesFailed where
  unused := List.pairwise_iff_forall_sublist.2 fun {x y} h c failed => by
    cases (calm x (h.subset List.mem_cons_self)).symm.trans failed
  renewed := List.Pairwise.isChain <| List.pairwise_iff_forall_sublist.2 fun {x y} h failed => by
    rw [calm x (h.subset List.mem_cons_self)] at failed
    cases failed

theorem LeavesFailed.append (h : log.LeavesFailed) (h' : newer.LeavesFailed)
    (unused : ∀ x ∈ log, ∀ c ∈ x.failed?, ∀ y ∈ newer, y.request.channel? ≠ some c)
    (renewed : ∀ x ∈ log.getLast?, x.failed?.isSome = true →
      ∀ y ∈ newer.head?, y.isConnect = true) :
    LeavesFailed (log ++ newer) where
  unused := List.pairwise_append.2
    ⟨h.unused, h'.unused, fun x hx y hy c failed => unused x hx c failed y hy⟩
  renewed := List.isChain_append.2
    ⟨h.renewed, h'.renewed, fun x hx y hy failed => renewed x hx failed y hy⟩

theorem said_eq_nil (h : ∀ x ∈ log, x.request.channel? ≠ some c) : log.said c = [] := by
  refine List.filterMap_eq_nil_iff.2 fun x hx => Option.not_isSome_iff_eq_none.1 fun said => ?_
  exact h x hx (WireExchange.channel?_of_said? said)

/-- Every connection had a channel of its own. -/
def HasOwnChannels (log : WireLog) : Prop := log.opened.Nodup

theorem HasOwnChannels.of_append (own : HasOwnChannels (log ++ newer)) : log.HasOwnChannels := by
  rw [HasOwnChannels, opened_append] at own
  exact own.of_append_left

/-- Every exchange about a channel came after the channel had been opened. -/
def IsKnown (log : WireLog) : Prop := ∀ x ∈ log, ∀ c, x.request.channel? = some c → c ∈ log.opened

theorem IsKnown.fresh (known : log.IsKnown) (own : HasOwnChannels (log ++ newer))
    (h : c ∈ newer.opened) : ∀ x ∈ log, x.request.channel? ≠ some c := by
  intro x hx about
  rw [HasOwnChannels, opened_append] at own
  exact (List.nodup_append.1 own).2.2 c (known x hx c about) c h rfl

end WireLog

/-- A server whose requests and answers are written down. -/
def Answering.recorded {σ : Type} (answer : Answering σ) : Answering (σ × WireLog) :=
  fun r (s, log) =>
    let (a, s) := answer r s
    (a, s, log ++ [⟨r, a⟩])

namespace ClientAction

variable {σ α β : Type} {slot slot' : Option ChannelId} {log : WireLog}

/-- What a program may put on the wire with what is in the slot, how it ends, and what is in the
slot then. It does not end where the server falls silent. -/
def Exchanges : ClientAction α → Option ChannelId → WireLog → Option α → Option ChannelId → Prop
  | .done a, slot, log, result, slot' => log = [] ∧ result = some a ∧ slot' = slot
  | .call ClientRequest.kept next, slot, log, result, slot' =>
    Exchanges (next slot) slot log result slot'
  | .call (ClientRequest.keep c) next, _, log, result, slot' =>
    Exchanges (next ()) c log result slot'
  | .call (ClientRequest.wire r) next, slot, log, result, slot' =>
    (log = [⟨r, none⟩] ∧ result = none ∧ slot' = slot) ∨
      ∃ a newer, log = ⟨r, some a⟩ :: newer ∧ Exchanges (next a) slot newer result slot'

/-- Whatever the server is, a program does what `Exchanges` says. -/
theorem exchanges_of_run (answer : Answering σ) (p : ClientAction α) (slot : Option ChannelId)
    (s : σ) (log : WireLog) : ∃ newer result slot' s',
      run answer.recorded p slot (s, log) = (result, slot', s', log ++ newer) ∧
        Exchanges p slot newer result slot' := by
  induction p generalizing slot s log with
  | done a => exact ⟨[], some a, slot, s, by rw [List.append_nil]; rfl, rfl, rfl, rfl⟩
  | call r next ih =>
    cases r with
    | kept => exact ih slot slot s log
    | keep c => exact ih () c s log
    | wire r =>
      unfold run
      simp only [Answering.recorded]
      generalize answer r s = got
      obtain ⟨a, s'⟩ := got
      match a with
      | none => exact ⟨[⟨r, none⟩], none, slot, s', rfl, .inl ⟨rfl, rfl, rfl⟩⟩
      | some a =>
        obtain ⟨newer, result, slot', s'', rest, exchanges⟩ :=
          ih a slot s' (log ++ [⟨r, some a⟩])
        refine ⟨⟨r, some a⟩ :: newer, result, slot', s'', rest.trans ?_, .inr ⟨a, newer, rfl,
          exchanges⟩⟩
        rw [List.append_assoc]
        rfl

/-- The second part of a program goes on where the first part has ended. -/
theorem exchanges_bind {p : ClientAction α} {f : α → ClientAction β} {result : Option β}
    (h : Exchanges (p.bind f) slot log result slot') :
    (Exchanges p slot log none slot' ∧ result = none) ∨
      ∃ a slot₁ first rest, Exchanges p slot first (some a) slot₁ ∧
        Exchanges (f a) slot₁ rest result slot' ∧ log = first ++ rest := by
  induction p generalizing slot log with
  | done a => exact .inr ⟨a, slot, [], log, ⟨rfl, rfl, rfl⟩, h, rfl⟩
  | call r next ih =>
    cases r with
    | kept => exact ih slot h
    | keep c => exact ih () h
    | wire r =>
      rcases h with ⟨log_eq, rfl, slot_eq⟩ | ⟨a, newer, rfl, h⟩
      · exact .inl ⟨.inl ⟨log_eq, rfl, slot_eq⟩, rfl⟩
      · rcases ih a h with ⟨halts, rfl⟩ | ⟨b, slot₁, first, rest, ends, goesOn, rfl⟩
        · exact .inl ⟨.inr ⟨a, newer, rfl, halts⟩, rfl⟩
        · exact .inr ⟨b, slot₁, ⟨r, some a⟩ :: first, rest, .inr ⟨a, first, rfl, ends⟩, goesOn, rfl⟩

end ClientAction

end ReplyPipeline.Broker
