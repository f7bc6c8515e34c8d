import ReplyPipeline.Proofs.ConsumeLoop
import ReplyPipeline.Proofs.DecidingFields
import ReplyPipeline.Proofs.IntakeAccounts

/-!
# The rules of the filter

Six rules say which events become tasks, each of them about the payload as it came, but for the
sender type, which is taken as it was read. `Rejection.Breaks` states them apart from each other and
from the filter. The filter accepts what breaks none of them and otherwise names the first one that
is broken (`Filter.first_broken_rule_rejects`); so what breaks a rule is not published, whatever
else goes on.
-/
namespace ReplyPipeline

open Json (Number Value)

/-- A member is missing or carries nothing: null, false, zero, an empty text, list or object. -/
inductive IsUnset : Option Value → Prop
  | missing : IsUnset none
  | null : IsUnset (some .null)
  | no : IsUnset (some (.bool false))
  | zero : IsUnset (some (.number (.integer 0)))
  | realZero {x : Decimal.Binary} : x.mantissa = 0 → IsUnset (some (.number (.real x)))
  | emptyText : IsUnset (some (.string ""))
  | emptyList : IsUnset (some (.array []))
  | emptyObject : IsUnset (some (.object []))

theorem isUnset_some_iff {v : Value} : IsUnset (some v) ↔ v.isVoid = true := by
  constructor
  · rintro (_ | _ | _ | _ | zero | _ | _ | _)
    all_goals first | rfl | exact beq_iff_eq.2 zero
  · intro void
    cases v with
    | null => exact .null
    | bool b => cases b with
      | false => exact .no
      | true => cases void
    | number k =>
      cases k with
      | integer n =>
        obtain rfl : n = 0 := beq_iff_eq.1 void
        exact .zero
      | real x => exact .realZero (beq_iff_eq.1 void)
    | string s =>
      obtain rfl := String.isEmpty_iff.1 void
      exact .emptyText
    | array items =>
      obtain rfl := List.isEmpty_iff.1 void
      exact .emptyList
    | object members =>
      obtain rfl := List.isEmpty_iff.1 void
      exact .emptyObject

namespace MessageKind

/-- The number that the platform writes for a kind. -/
def code : MessageKind → Int
  | incoming => 0
  | outgoing => 1
  | activity => 2
  | template => 3

theorem ofCode?_eq_some_iff {n : Int} {k : MessageKind} : ofCode? n = some k ↔ n = k.code := by
  constructor
  · intro found
    unfold ofCode? at found
    split_ifs at found <;> cases found <;> assumption
  · rintro rfl
    cases k <;> rfl

theorem ofName?_eq_some_iff {s : String} {k : MessageKind} : ofName? s = some k ↔ s = k.name := by
  constructor
  · intro found
    obtain ⟨front, back, all, -⟩ := List.lookup_eq_some_iff.1 found
    have place : (s, k) ∈ names := by
      rw [all]
      exact List.mem_append_right _ List.mem_cons_self
    revert place
    cases k <;> simp [names, name]
  · rintro rfl
    exact ofName?_name k

end MessageKind

theorem MessageType.kind_eq_iff {t : MessageType} {k : MessageKind} (other : k ≠ .incoming) :
    t.kind = k ↔ t.value = .number (.integer k.code) ∨ t.value = .string k.name := by
  have found {o : Option MessageKind} : o.getD .incoming = k ↔ o = some k := by
    cases o with
    | none => simp [Ne.symm other]
    | some l => simp
  cases t with
  | code n => simp [kind, value, found, MessageKind.ofCode?_eq_some_iff]
  | name s => simp [kind, value, found, MessageKind.ofName?_eq_some_iff]

namespace Rejection

/-- The place of the broken rule among the six. Outgoing messages and activities break one rule. -/
def place : Rejection → Nat
  | eventNotAllowed _ => 0
  | privateNote => 1
  | emptyContent => 2
  | outgoingMessage => 3
  | activityMessage => 3
  | botSender _ => 4
  | noAgentBot => 5

theorem place_lt (r : Rejection) : r.place < 6 := by
  cases r <;> simp [place]

/-- A payload whose sender was read as one of a type, or of none, breaks the rule that a rejection
is for, given the sender types of bots; the rejection carries the type of the event, empty if there
is none, or of the sender. -/
def Breaks (bots : List String) (v : Value) (sender : Option String) : Rejection → Prop
  | eventNotAllowed s => s ≠ "message_created" ∧ (v.get? "event" = some (.string s) ∨
      s = "" ∧ (v.get? "event" = none ∨ v.get? "event" = some .null))
  | privateNote => v.get? "private" = some (.bool true)
  | emptyContent =>
    ∀ s, v.get? "content" = some (.string s) → ∀ c ∈ s.toList, Text.isBlank c = true
  | outgoingMessage => v.get? "message_type" = some (.number (.integer 1)) ∨
      v.get? "message_type" = some (.string "outgoing")
  | activityMessage => v.get? "message_type" = some (.number (.integer 2)) ∨
      v.get? "message_type" = some (.string "activity")
  | botSender s => sender = some s ∧ s ∈ bots
  | noAgentBot => IsUnset (v.get? "agent_bot")

end Rejection

namespace Event

open Rejection

/-- What an event says of itself and its agent bot are read from the value that it was made of. -/
theorem read_of_ofValue {e : Event} {v : Value} {depth : Nat}
    (held : v.Readable (fun _ => True) depth) (decoded : ofValue v = .ok e) :
    e.core.IsReadFrom v ∧ e.agentBot = (v.get? "agent_bot").bind fun
      | .null => none
      | w => some w := by
  cases v with
  | object members =>
    have made : ofMembers members = .ok e := Json.eq_ok_of_mapError decoded
    refine ⟨(core_eq_ok_iff fun key k found => held.number_get? found).1 ?_,
      (payload_of_ofMembers made).2⟩
    rw [made]
    rfl
  | _ => cases decoded

variable {e : Event} {v : Value} {bots : List String} {sender : Option String}

/-! ## The rules by what an event says of itself -/

section Rules

variable (read : e.core.IsReadFrom v)
include read

theorem breaks_eventNotAllowed_iff {s : String} :
    (eventNotAllowed s).Breaks bots v sender ↔
      e.type.getD "" = s ∧ s ≠ "message_created" := by
  have given : Gives Value.string (v.get? "event") e.type := read.type
  cases told : e.type with
  | none =>
    rw [told, gives_nothing_iff] at given
    rcases given with given | given <;> simp [Breaks, given, and_comm, eq_comm]
  | some t =>
    rw [told, gives_iff] at given
    simp [Breaks, given, and_comm]

theorem breaks_privateNote_iff :
    privateNote.Breaks bots v sender ↔ e.isPrivateNote = true := by
  have given : Gives Value.bool (v.get? "private") e.isPrivate := read.isPrivate
  unfold isPrivateNote
  cases told : e.isPrivate with
  | none =>
    rw [told, gives_nothing_iff] at given
    rcases given with given | given <;> simp [Breaks, given]
  | some b =>
    rw [told, gives_iff] at given
    simp [Breaks, given]

theorem breaks_emptyContent_iff :
    emptyContent.Breaks bots v sender ↔ Text.allBlank e.contentText = true := by
  have given : Gives Value.string (v.get? "content") e.content := read.content
  unfold contentText
  cases told : e.content with
  | none =>
    rw [told, gives_nothing_iff] at given
    rcases given with given | given <;> simp [Breaks, given, Text.allBlank]
  | some s =>
    rw [told, gives_iff] at given
    simp [Breaks, given, Text.allBlank]

theorem messageKind_eq_iff {k : MessageKind} (other : k ≠ .incoming) :
    v.get? "message_type" = some (.number (.integer k.code)) ∨
        v.get? "message_type" = some (.string k.name) ↔ e.messageKind = k := by
  have given : Gives MessageType.value (v.get? "message_type") e.messageType := read.messageType
  unfold messageKind
  cases told : e.messageType with
  | none =>
    rw [told, gives_nothing_iff] at given
    rcases given with given | given <;> simp [given, Ne.symm other]
  | some t =>
    rw [told, gives_iff] at given
    simp [given, MessageType.kind_eq_iff other]

theorem breaks_outgoingMessage_iff :
    outgoingMessage.Breaks bots v sender ↔ e.messageKind = .outgoing :=
  messageKind_eq_iff read (k := .outgoing) nofun

theorem breaks_activityMessage_iff :
    activityMessage.Breaks bots v sender ↔ e.messageKind = .activity :=
  messageKind_eq_iff read (k := .activity) nofun

end Rules

theorem isUnset_iff (bot : e.agentBot = (v.get? "agent_bot").bind fun
      | .null => none
      | w => some w) :
    IsUnset (v.get? "agent_bot") ↔ e.activeAgentBot? = none := by
  unfold activeAgentBot?
  rw [bot]
  cases v.get? "agent_bot" with
  | none => exact iff_of_true .missing rfl
  | some w =>
    rw [isUnset_some_iff]
    cases w with
    | null => exact iff_of_true rfl rfl
    | _ => simp [Option.filter]

end Event

namespace Filter

open Rejection Event

/-- What the filter says about the rule in a place, whatever it says about the others. -/
def reasonAt (f : Filter) (e : Event) : Nat → Option Rejection
  | 0 =>
    if f.allowedEvents.contains (e.type.getD "") then none
    else some (.eventNotAllowed (e.type.getD ""))
  | 1 => if e.isPrivateNote then some .privateNote else none
  | 2 => if Text.allBlank e.contentText then some .emptyContent else none
  | 3 =>
    if e.messageKind = .outgoing then some .outgoingMessage
    else if e.messageKind = .activity then some .activityMessage
    else none
  | 4 => (e.senderType?.filter (f.botSenderTypes.contains ·)).map .botSender
  | 5 => if e.activeAgentBot?.isNone then some .noAgentBot else none
  | _ => none

theorem rejection?_eq (f : Filter) (e : Event) :
    f.rejection? e = (List.range 6).findSome? (f.reasonAt e) := by
  have places : List.range 6 = [0, 1, 2, 3, 4, 5] := rfl
  rw [places]
  simp only [List.findSome?, reasonAt, rejection?]
  generalize (e.senderType?.filter (f.botSenderTypes.contains ·)).map Rejection.botSender = fromBot
  cases fromBot <;> split_ifs <;> simp_all

section Rules

variable {e : Event} {v : Value} {bots : List String} {n : Nat} {r : Rejection}
  (read : e.core.IsReadFrom v)
  (bot : e.agentBot = (v.get? "agent_bot").bind fun
    | .null => none
    | w => some w)
include read bot

/-- What the filter says about a place is that the rule there is broken. -/
theorem reasonAt_eq_some_iff :
    ({ botSenderTypes := bots } : Filter).reasonAt e n = some r ↔
      r.Breaks bots v e.senderType? ∧ r.place = n := by
  constructor
  · intro told
    match n with
    | 0 =>
      obtain ⟨other, ⟨⟩⟩ := Option.ite_none_left_eq_some.1 told
      exact ⟨(breaks_eventNotAllowed_iff read).2 ⟨rfl, by simpa using other⟩, rfl⟩
    | 1 =>
      obtain ⟨note, ⟨⟩⟩ := Option.ite_none_right_eq_some.1 told
      exact ⟨(breaks_privateNote_iff read).2 note, rfl⟩
    | 2 =>
      obtain ⟨blank, ⟨⟩⟩ := Option.ite_none_right_eq_some.1 told
      exact ⟨(breaks_emptyContent_iff read).2 blank, rfl⟩
    | 3 =>
      by_cases outgoing : e.messageKind = .outgoing
      · cases (if_pos outgoing).symm.trans told
        exact ⟨(breaks_outgoingMessage_iff read).2 outgoing, rfl⟩
      · have told := (if_neg outgoing).symm.trans told
        obtain ⟨activity, ⟨⟩⟩ := Option.ite_none_right_eq_some.1 told
        exact ⟨(breaks_activityMessage_iff read).2 activity, rfl⟩
    | 4 =>
      obtain ⟨s, robot, rfl⟩ := Option.map_eq_some_iff.1 told
      obtain ⟨sender, listed⟩ := Option.filter_eq_some_iff.1 robot
      exact ⟨⟨sender, by simpa using listed⟩, rfl⟩
    | 5 =>
      obtain ⟨unset, ⟨⟩⟩ := Option.ite_none_right_eq_some.1 told
      exact ⟨(isUnset_iff bot).2 (Option.isNone_iff_eq_none.1 unset), rfl⟩
    | n + 6 => cases told
  · rintro ⟨broken, rfl⟩
    cases r with
    | eventNotAllowed s =>
      obtain ⟨rfl, other⟩ := (breaks_eventNotAllowed_iff read).1 broken
      exact if_neg (by simpa using other)
    | privateNote => exact if_pos ((breaks_privateNote_iff read).1 broken)
    | emptyContent => exact if_pos ((breaks_emptyContent_iff read).1 broken)
    | outgoingMessage => exact if_pos ((breaks_outgoingMessage_iff read).1 broken)
    | activityMessage =>
      have activity := (breaks_activityMessage_iff read).1 broken
      exact (if_neg (by rw [activity]; decide)).trans (if_pos activity)
    | botSender s =>
      refine Option.map_eq_some_iff.2 ⟨s, Option.filter_eq_some_iff.2 ⟨broken.1, ?_⟩, rfl⟩
      simpa using broken.2
    | noAgentBot =>
      exact if_pos (Option.isNone_iff_eq_none.2 ((isUnset_iff bot).1 broken))

theorem eq_of_breaks {r' : Rejection} (h : r.Breaks bots v e.senderType?)
    (h' : r'.Breaks bots v e.senderType?) (same : r.place = r'.place) : r = r' := by
  have told := (reasonAt_eq_some_iff read bot).2 ⟨h, same⟩
  exact Option.some.inj (told.symm.trans ((reasonAt_eq_some_iff read bot).2 ⟨h', rfl⟩))

theorem rejection?_eq_none_iff :
    ({ botSenderTypes := bots } : Filter).rejection? e = none ↔
      ∀ r : Rejection, ¬r.Breaks bots v e.senderType? := by
  rw [rejection?_eq, List.findSome?_eq_none_iff]
  constructor
  · intro silent r broken
    have told := (reasonAt_eq_some_iff read bot).2 ⟨broken, rfl⟩
    cases (silent _ (List.mem_range.2 r.place_lt)).symm.trans told
  · intro kept n _
    refine Option.eq_none_iff_forall_ne_some.2 fun r told => kept r ?_
    exact ((reasonAt_eq_some_iff read bot).1 told).1

/-- The rule that is named is broken, and none before it. -/
theorem first_of_rejection? (named : ({ botSenderTypes := bots } : Filter).rejection? e = some r) :
    r.Breaks bots v e.senderType? ∧
      ∀ r' : Rejection, r'.Breaks bots v e.senderType? → r.place ≤ r'.place := by
  rw [rejection?_eq, List.findSome?_eq_some_iff] at named
  obtain ⟨before, n, after, places, told, silent⟩ := named
  obtain ⟨broken, rfl⟩ := (reasonAt_eq_some_iff read bot).1 told
  refine ⟨broken, fun r' broken' => Nat.le_of_not_lt fun less => ?_⟩
  have ordered : (before ++ r.place :: after).Pairwise (· < ·) := places ▸ List.pairwise_lt_range
  have place : r'.place ∈ before ++ r.place :: after := places ▸ List.mem_range.2 r'.place_lt
  have told' := (reasonAt_eq_some_iff read bot).2 ⟨broken', rfl⟩
  rcases List.mem_append.1 place with earlier | later
  · cases (silent _ earlier).symm.trans told'
  · rcases List.mem_cons.1 later with same | later
    · exact absurd same (Nat.ne_of_lt less)
    · have more := List.rel_of_pairwise_cons (List.pairwise_append.1 ordered).2.1 later
      exact Nat.lt_asymm less more

end Rules

end Filter

/-- What the filter rejects is answered without a single request. -/
theorem Gateway.past_of_rejected {g : Gateway} {e : Event} {r : Rejection}
    (rejected : g.filter.rejection? e = some r) {past : History} {rest : Action GatewayAnswer}
    (goes : (g.handle e).Goes past rest) :
    past = [] ∧ rest = .done (.ignored (.rejected r)) := by
  have done : g.handle e = .done (.ignored (.rejected r)) := by
    unfold handle
    rw [rejected]
    rfl
  rw [done] at goes
  induction goes with
  | start => exact ⟨rfl, rfl⟩
  | answer a _ ih => cases ih.2

theorem Gateway.exists_publication {g : Gateway} {e : Event} {id : CorrelationId}
    (accepted : g.filter.rejection? e = none) (named : e.correlationId? = some id) :
    ∃ past rest, (g.handle e).Goes past rest ∧ past.hasPublished = true := by
  have begun : (g.handle e).Goes [] (g.accept e id) := by
    have same : g.handle e = g.accept e id := by
      unfold handle
      rw [accepted, named]
    rw [same]
    exact .start
  have looked := begun.answer (r := g.idempotency.checkRequest id) (.ok false)
  have locked := looked.answer (r := g.idempotency.lockRequest id) (.ok true)
  have dated := locked.answer (r := .wallClock) Instant.sample
  have timed := dated.answer (r := .now) (0 : Moment)
  have declared := timed.answer (r := .declareTopology _) (some (.ok ()))
  have published := declared.answer (r := .publish _ _) (some (.ok ()))
  exact ⟨_, _, published, rfl⟩

namespace Filter

variable {e : Event} {v : Value} {bots : List String} {depth : Nat}

/-- Whole numbers have 64 bits and keys stand in order in every JSON value there is, which is all
that is assumed of the payload. The filter names a rejection exactly if the payload breaks its rule
and no rule that comes before, and it accepts an event exactly if the payload breaks no rule. So
whatever the store and the broker answer to a gateway with this filter, an event for which it asks
for a publication breaks none; and one that breaks none and has an id can be published. -/
theorem first_broken_rule_rejects (held : v.Readable (fun _ => True) depth)
    (decoded : Event.ofValue v = .ok e) :
    (∀ r : Rejection, ({ botSenderTypes := bots } : Filter).rejection? e = some r ↔
      r.Breaks bots v e.senderType? ∧
        ∀ r' : Rejection, r'.Breaks bots v e.senderType? → r.place ≤ r'.place) ∧
    (({ botSenderTypes := bots } : Filter).rejection? e = none ↔
      ∀ r : Rejection, ¬r.Breaks bots v e.senderType?) ∧
    ∀ g : Gateway, g.filter = { botSenderTypes := bots } →
      (∀ past rest, (g.handle e).Goes past rest →
        ∀ y ∈ past, ∀ task deadline, y.request = .publish task deadline →
          ∀ r : Rejection, ¬r.Breaks bots v e.senderType?) ∧
      ((∀ r : Rejection, ¬r.Breaks bots v e.senderType?) → e.correlationId? ≠ none →
        ∃ past rest, (g.handle e).Goes past rest ∧ past.hasPublished = true) := by
  obtain ⟨read, bot⟩ := Event.read_of_ofValue held decoded
  have accepted : ({ botSenderTypes := bots } : Filter).rejection? e = none ↔
      ∀ r : Rejection, ¬r.Breaks bots v e.senderType? := rejection?_eq_none_iff read bot
  refine ⟨fun r => ⟨first_of_rejection? read bot, ?_⟩, accepted, fun g same => ⟨?_, ?_⟩⟩
  · rintro ⟨broken, first⟩
    cases answer : ({ botSenderTypes := bots } : Filter).rejection? e with
    | none => exact absurd broken (accepted.1 answer r)
    | some r' =>
      obtain ⟨broken', first'⟩ := first_of_rejection? read bot answer
      have place := Nat.le_antisymm (first' r broken) (first r' broken')
      rw [eq_of_breaks read bot broken' broken place]
  · intro past rest goes y hy task deadline published
    rw [← accepted, ← same]
    cases answer : g.filter.rejection? e with
    | none => rfl
    | some r =>
      obtain ⟨rfl, -⟩ := Gateway.past_of_rejected answer goes
      cases hy
  · intro kept named
    obtain ⟨id, known⟩ := Option.ne_none_iff_exists'.1 named
    rw [← accepted, ← same] at kept
    exact Gateway.exists_publication kept known

/-- An activity without content and without an agent bot. -/
def hushed : Value :=
  .object [("agent_bot", .number (.integer 0)), ("content", .string "\u00a0"),
    ("event", .string "message_created"), ("message_type", .number (.integer 2))]

theorem first_broken_rule_rejects_of_activity :
    ∃ e, Event.ofValue hushed = .ok e ∧
      ({ botSenderTypes := ["Robot"] } : Filter).rejection? e = some .emptyContent ∧
      Rejection.noAgentBot.Breaks ["Robot"] hushed e.senderType? ∧
      Rejection.activityMessage.Breaks ["Robot"] hushed e.senderType? := by
  have held : hushed.Readable (fun _ => True) 1 := by
    refine ⟨by unfold Json.Sorted; decide, fun m hm => ?_⟩
    simp only [List.mem_cons, List.not_mem_nil, or_false] at hm
    rcases hm with rfl | rfl | rfl | rfl
    · exact ⟨by decide, by decide⟩
    · trivial
    · trivial
    · exact ⟨by decide, by decide⟩
  refine ⟨_, rfl, ((first_broken_rule_rejects held rfl).1 .emptyContent).2 ⟨?_, ?_⟩,
    .zero, .inl rfl⟩
  · intro s found
    have content : hushed.get? "content" = some (.string "\u00a0") := rfl
    rw [content] at found
    cases found
    exact List.all_eq_true.1 (show Text.allBlank "\u00a0" = true by decide)
  · intro r broken
    cases r with
    | eventNotAllowed s =>
      obtain ⟨other, told | ⟨-, told | told⟩⟩ := broken
      · cases told
        exact absurd rfl other
      · cases told
      · cases told
    | privateNote => cases broken
    | _ => simp [Rejection.place]

end Filter
end ReplyPipeline
