import ReplyPipeline.Proofs.NoLoss
import ReplyPipeline.Proofs.PublishedTask

/-!
# Modes and places of replies

How a task is to be answered, and where, is said once, in the event. It passes through the settings
that the gateway reads off the event, through the text of the task and, for every failed attempt,
through the text once more. Whatever has become of the task when it is decoded, its tenant, its
conversation and its mode are those of the event (`Broker.Message.Descends.route`); all replies go
there and in that mode, or there are none (`Traffic.mode_governs_replies`).
-/
namespace ReplyPipeline

open Json (Fills Value Yields)
open Decimal (Format)

namespace Envelope

variable {e f : Envelope}

/-- A task is answered where another one is, and in its mode. -/
structure RoutedAs (e f : Envelope) : Prop where
  tenant : f.tenant = e.tenant
  conversation : f.conversation = e.conversation
  mode : f.responseMode = e.responseMode

/-- The members behind the settings, whatever they are read as. -/
def lastEntries (e : Envelope) : List (Json.Entry Draft) :=
  [⟨"created_at", Json.quoteChars e.createdAt.text, id⟩,
   ⟨"attempt_count", Decimal.natText e.attempts.toNat, id⟩,
   ⟨"raw", e.raw.chars, id⟩]

/-- What was read of tenant, conversation and settings. -/
def Draft.Routes (tenant conversation : Int64) (agent : Option AgentConfig) (d : Draft) : Prop :=
  d.tenant = some tenant ∧ d.conversation = some conversation ∧ d.agent = some agent

theorem keeps_routes (tenant conversation : Int64) (agent : Option AgentConfig) :
    ∀ f ∈ fields, ∀ d, f.present d = false → d.Routes tenant conversation agent →
      Yields (f.read 126) fun set => (set d).Routes tenant conversation agent := by
  have other {f : Json.Field Draft} (keeps : f.Keeps 126 (Draft.Routes tenant conversation agent)) :
      ∀ d, f.present d = false → d.Routes tenant conversation agent →
        Yields (f.read 126) fun set => (set d).Routes tenant conversation agent :=
    fun d _ hd bs set rest ok => keeps bs set rest ok d hd
  refine List.forall_mem_cons.2 ⟨?_, List.forall_mem_cons.2 ⟨?_, List.forall_mem_cons.2 ⟨?_,
    List.forall_mem_cons.2 ⟨?_, List.forall_mem_cons.2 ⟨?_, List.forall_mem_cons.2 ⟨?_,
    List.forall_mem_cons.2 ⟨?_, List.forall_mem_cons.2 ⟨?_, List.forall_mem_cons.2 ⟨?_,
    List.forall_mem_cons.2 ⟨?_, List.forall_mem_cons.2 ⟨?_, nofun⟩⟩⟩⟩⟩⟩⟩⟩⟩⟩⟩
  -- The three themselves are there, so they are not read again; the others set something else.
  case refine_2 =>
    intro d absent hd
    have absent : d.tenant.isSome = false := absent
    rw [hd.1] at absent
    cases absent
  case refine_3 =>
    intro d absent hd
    have absent : d.conversation.isSome = false := absent
    rw [hd.2.1] at absent
    cases absent
  case refine_8 =>
    intro d absent hd
    have absent : d.agent.isSome = false := absent
    rw [hd.2.2] at absent
    cases absent
  all_goals
    exact other (Json.keeps_of (P := fun _ => True) (fun _ _ _ _ => trivial) fun _ _ _ hd => hd)

theorem routes_of_ofDraft {d : Draft} (h : ofDraft d = .ok f) :
    d.tenant = some f.tenant ∧ d.conversation = some f.conversation ∧
      f.agent = d.agent.getD none := by
  obtain ⟨_, -, made⟩ := Json.eq_ok_of_bind h
  obtain ⟨_, tenant, made⟩ := Json.eq_ok_of_bind made
  obtain ⟨_, conversation, made⟩ := Json.eq_ok_of_bind made
  obtain ⟨_, -, made⟩ := Json.eq_ok_of_bind made
  obtain ⟨_, -, made⟩ := Json.eq_ok_of_bind made
  obtain ⟨_, -, made⟩ := Json.eq_ok_of_bind made
  obtain ⟨_, -, made⟩ := Json.eq_ok_of_bind made
  cases made
  exact ⟨Json.eq_some_of_required tenant, Json.eq_some_of_required conversation, rfl⟩

/-- Whatever else becomes of a task, it is decoded with its tenant, its conversation and its mode if
its settings can be read: they stand in front of the payload, and do not stand twice. -/
theorem routedAs_of_ofBytes
    (settings : ∀ c, e.agent = some c → c.Writable Format.double.Holds 125)
    (decoded : ofBytes e.toBytes = .ok f) : e.RoutedAs f := by
  obtain ⟨botConfig, readsAgent, -⟩ := AgentConfig.readsAs_optional settings
  have names : (fields.map (·.name)).Nodup := by decide
  have fills : Fills fields 126 _ {} _ :=
    .field names 0 rfl rfl (e.correlationId.readsAs_chars 126)
      (.field names 1 rfl rfl (Json.readsAs_i64 e.tenant 126)
        (.field names 2 rfl rfl (Json.readsAs_i64 e.conversation 126)
          (.field names 3 rfl rfl (Json.readsAs_i64 e.inbox 126)
            (.field names 4 rfl rfl (Json.readsAs_text e.content 126)
              (.field names 5 rfl rfl (e.kind.readsAs_chars 126)
                (.field names 6 rfl rfl (readsAs_optional_sender e.sender 125)
                  (.field names 7 rfl rfl readsAgent (.nil _))))))))
  obtain ⟨rest, one⟩ := Json.eq_ok_of_run (Json.eq_ok_of_mapError decoded)
  obtain ⟨fuel, -, read⟩ := Json.record_entries (.open "struct TaskEnvelope" 11) ofDraft fills
    nofun e.lastEntries []
  rw [List.append_nil] at read
  have one : _ = Except.ok (f, rest) := read.symm.trans one
  split at one
  · cases one
  next d after members =>
    have kept := Json.kept_of_recordMembersFrom
      (keeps_routes e.tenant e.conversation (e.agent.map fun c => { c with botConfig }))
      ⟨rfl, rfl, rfl⟩ members
    cases hf : ofDraft d with
    | error m =>
      rw [hf] at one
      cases one
    | ok f' =>
      rw [hf] at one
      cases one
      obtain ⟨tenant, conversation, agent⟩ := routes_of_ofDraft hf
      refine ⟨Option.some.inj (tenant.symm.trans kept.1),
        Option.some.inj (conversation.symm.trans kept.2.1), ?_⟩
      rw [responseMode, responseMode, agent, kept.2.2, Option.getD_some, Option.map_map]
      rfl

end Envelope

namespace Event

variable {body : Bytes} {event : Event}

/-- What stands for the mode in the settings of the agent bot, if they are an object and have it. -/
def modeMember (e : Event) : Option Value :=
  (e.payload.get? "agent_bot").bind fun bot => bot.get? "response_mode"

/-- The mode that an event asks for: the one that is named, or the default one. -/
def mode (e : Event) : ResponseMode :=
  ((e.modeMember.bind Value.text?).map ResponseMode.ofName).getD .autoRespond

theorem get?_of_isVoid {v : Value} (void : v.isVoid = true) (key : String) : v.get? key = none := by
  cases v with
  | object members =>
    cases members with
    | nil => rfl
    | cons p ms => cases void
  | _ => rfl

/-- The agent bot that counts is a member of the payload. -/
theorem activeAgentBot?_of_ofBytes (decoded : ofBytes body = .ok event) :
    event.activeAgentBot? = (event.payload.get? "agent_bot").filter fun v => !v.isVoid := by
  obtain ⟨members, -, made⟩ := members_of_ofBytes decoded
  obtain ⟨payload, bot⟩ := payload_of_ofMembers made
  rw [activeAgentBot?, bot, payload, Value.get?]
  cases members.lookup "agent_bot" with
  | none => rfl
  | some v => cases v <;> rfl

/-- The gateway reads the mode off the event. -/
theorem responseMode_ofEvent (decoded : ofBytes body = .ok event) (id : CorrelationId)
    (now : Instant) : (Envelope.ofEvent event id now).responseMode = event.mode := by
  have settings : (Envelope.ofEvent event id now).agent =
      event.activeAgentBot?.map AgentConfig.ofValue := rfl
  rw [Envelope.responseMode, settings, activeAgentBot?_of_ofBytes decoded, mode, modeMember]
  cases event.payload.get? "agent_bot" with
  | none => rfl
  | some v =>
    by_cases void : v.isVoid = true
    · rw [Option.filter_some_neg (by simp [void]), Option.bind_some, get?_of_isVoid void]
      rfl
    · rw [Option.filter_some_pos (by simp [void]), Option.bind_some]
      rfl

theorem mode_of_name {name : String} (h : event.modeMember = some (.string name)) :
    event.mode = .ofName name := by
  rw [mode, h]
  rfl

theorem mode_of_no_name (h : ∀ name, event.modeMember ≠ some (.string name)) :
    event.mode = .autoRespond := by
  unfold mode
  cases hm : event.modeMember with
  | none => rfl
  | some v =>
    cases v with
    | string name => exact absurd hm (h name)
    | _ => rfl

end Event

/-- Names that are not known ask for no reply, and neither does the mode without replies. -/
theorem ResponseMode.delivery?_ofName {name : String} (auto : name ≠ "auto_respond")
    (assist : name ≠ "assist_agent") : (ofName name).delivery? = none := by
  unfold ofName names
  rw [List.lookup_cons, beq_eq_false_iff_ne.2 auto, List.lookup_cons,
    beq_eq_false_iff_ne.2 assist, List.lookup_cons]
  cases name == "manual_trigger" <;> rfl

theorem IntakeStanding.task_of_allows {g : Gateway} {event : Event} {s : IntakeStanding}
    {e : Envelope} {deadline : Option Moment} (h : s.allows g event (.publish e deadline)) :
    ∃ id now, e = .ofEvent event id now := by
  cases s with
  | holding =>
    obtain ⟨id, now, -, rfl⟩ := h
    exact ⟨id, now, rfl⟩
  | _ => exact h.elim

/-- What has become of the message of an event is answered where the event belongs, in the mode that
it asks for. -/
theorem Broker.Message.Descends.route {g : Gateway} {event : Event} {past : History} {body : Bytes}
    {m : Broker.Message} (h : m.Descends past) (kept : (g.code event).Kept .looking past)
    (decoded : Event.ofBytes body = .ok event) {task : Envelope}
    (taken : Envelope.ofBytes m.body = .ok task) :
    task.tenant = event.tenant ∧ task.conversation = event.conversationId ∧
      task.responseMode = event.mode := by
  induction h generalizing task with
  | @published e deadline hp =>
    obtain ⟨newer, older, rfl⟩ := List.append_of_mem hp
    obtain ⟨id, now, rfl⟩ := IntakeStanding.task_of_allows kept.split.1
    obtain ⟨readable, bot⟩ := Event.payload_of_ofBytes decoded
    have routed := Envelope.routedAs_of_ofBytes (Envelope.agent_of_ofEvent bot readable) taken
    exact ⟨routed.tenant, routed.conversation,
      routed.mode.trans (Event.responseMode_ofEvent decoded id now)⟩
  | returned _ ih => exact ih taken
  | republished _ he ih =>
    obtain ⟨tenant, conversation, mode⟩ := ih he
    have routed := Envelope.routedAs_of_ofBytes (e := Envelope.recordFailure _)
      (Envelope.writable_of_ofBytes he).agent taken
    exact ⟨routed.tenant.trans tenant, routed.conversation.trans conversation,
      routed.mode.trans mode⟩

namespace History

/-- All replies that were posted went to one conversation, as private notes or not. -/
def RepliesGo (past : History) (tenant conversation : Int64) (isPrivate : Bool) : Prop :=
  ∀ t c text p answer, (⟨.reply t c text p, answer⟩ : Exchange) ∈ past →
    t = tenant ∧ c = conversation ∧ p = isPrivate

def HasNoReply (past : History) : Prop :=
  ∀ t c text p answer, (⟨.reply t c text p, answer⟩ : Exchange) ∉ past

def HasReply (past : History) : Prop :=
  ∃ e limit text, (⟨.process e limit, ProcessingOutcome.reply text⟩ : Exchange) ∈ past

end History

/-- Whatever a program is answered, it comes to an end as `P` says. -/
def Program.EndsIn {S : Signature} {α : Type} (P : α → Prop) : Program S α → Prop
  | .done a => P a
  | .call _ next => ∀ a, (next a).EndsIn P

namespace HandlingStanding

theorem stage_after_success {x : TaskHandler} {d : Broker.Delivery} {s : HandlingStanding}
    {r : PipelineRequest} {a : r.Answer} (success : s.stage = .succeeded) (hr : s.allows x d r) :
    (s.after ⟨r, a⟩).stage = .succeeded := by
  cases r with
  | process e limit =>
    obtain ⟨-, -, rfl⟩ := hr
    cases success
  | reply =>
    obtain ⟨_, -, -, -, -, rfl⟩ := hr
    cases success
  | publish e deadline =>
    match a with
    | none => exact success
    | some (.error _) => exact success
    | some (.ok ()) => exact success
  | store call limit => cases call <;> exact success
  | _ => exact success

theorem closes.completed {s : HandlingStanding} {o : DeliveryOutcome} (h : s.closes o)
    (success : s.stage = .succeeded) : o = .completed := by
  obtain ⟨s₀, fits, rfl⟩ := h
  cases o with
  | completed => rfl
  | retried n =>
    obtain ⟨_, -, failed, -⟩ := fits
    cases failed.symm.trans success
  | deadLettered n =>
    obtain ⟨_, -, failed, -⟩ := fits
    cases failed.symm.trans success
  | malformed =>
    obtain ⟨_, -, opened, -⟩ := fits
    cases opened.symm.trans success

end HandlingStanding

namespace TaskHandler

variable {x : TaskHandler} {d : Broker.Delivery} {past : History}

/-- What is left to do after a success leads to completion. -/
theorem completes_of_success {s : HandlingStanding} {p : Action DeliveryOutcome}
    (success : s.stage = .succeeded) (keeps : (x.code d).Binds HandlingStanding.closes s p) :
    p.EndsIn (· = .completed) := by
  induction p generalizing s with
  | done o => exact HandlingStanding.closes.completed keeps success
  | call r next ih =>
    intro a
    obtain ⟨allowed, goes_on⟩ := keeps
    exact ih a (HandlingStanding.stage_after_success success allowed) (goes_on a)

theorem reply_of_kept (kept : (x.code d).Kept {} past) {tenant conversation : Int64} {text : String}
    {isPrivate : Bool} {answer : Except ReplyError Unit}
    (posted : (⟨.reply tenant conversation text isPrivate, answer⟩ : Exchange) ∈ past) :
    ∃ task, Envelope.ofBytes d.message.body = .ok task ∧
      task.responseMode.delivery? = some isPrivate ∧ tenant = task.tenant ∧
      conversation = task.conversation := by
  obtain ⟨newer, older, rfl⟩ := List.append_of_mem posted
  obtain ⟨task, taken, mode, tenant, conversation, -⟩ := kept.split.1
  exact ⟨task, taken, mode, tenant, conversation⟩

/-- Where replies are not posted, making one is the success. -/
theorem stage_of_unposted (kept : (x.code d).Kept {} past)
    (unposted : ∀ task, Envelope.ofBytes d.message.body = .ok task →
      task.responseMode.delivery? = none)
    (made : past.HasReply) : ((x.code d).standing {} past).stage = .succeeded := by
  obtain ⟨e, limit, text, made⟩ := made
  induction past with
  | nil => cases made
  | cons y past ih =>
    obtain ⟨allowed, kept⟩ := kept
    rcases List.mem_cons.1 made with rfl | earlier
    · obtain ⟨taken, -, -⟩ := allowed
      rw [Code.standing_cons]
      change (if e.responseMode.delivery?.isSome then AttemptStage.made text
        else .succeeded) = .succeeded
      rw [unposted e taken]
      rfl
    · exact HandlingStanding.stage_after_success (ih kept earlier) allowed

end TaskHandler

namespace Traffic

variable {g : Gateway} {x : TaskHandler} {permits : Happening → Bool} {start s : Traffic}
  {body : Bytes} {h : Handling} {k : Nat} {i : Intake}

/-- However often the task of an event has failed and been published again, and whatever else goes
on: if the agent bot of the event asks for assistance, all replies are private notes; if it asks for
responses, names no mode, or is no object, none of them is; they go to the tenant and the
conversation of the event. If it names another mode nothing is posted, and once a reply has been
made the task is completed, whatever else fails. Of what cannot be decoded nothing is posted. -/
theorem mode_governs_replies (idle : start.Idle) (run : Reaches g x permits start s)
    (hh : h ∈ s.handlings) (origin : h.origin = some k) (hi : s.intakes[k]? = some i)
    (decoded : Event.ofBytes body = .ok i.event) :
    (i.event.modeMember = some (.string "assist_agent") →
      h.thread.past.RepliesGo i.event.tenant i.event.conversationId true) ∧
    (i.event.modeMember = some (.string "auto_respond") ∨
        (∀ name, i.event.modeMember ≠ some (.string name)) →
      h.thread.past.RepliesGo i.event.tenant i.event.conversationId false) ∧
    (∀ name, i.event.modeMember = some (.string name) → name ≠ "auto_respond" →
        name ≠ "assist_agent" →
      h.thread.past.HasNoReply ∧
        (h.thread.past.HasReply → h.thread.rest.EndsIn (· = .completed))) ∧
    ∀ fault, Envelope.ofBytes h.delivery.message.body = .error fault →
      h.thread.past.HasNoReply := by
  obtain ⟨sound, traced, -⟩ := kept_of_reaches idle run
  obtain ⟨kept, rest⟩ := sound.handlings h hh
  obtain ⟨i', hi', descends⟩ := traced.handled h hh k origin
  obtain rfl : i = i' := Option.some.inj (hi.symm.trans hi')
  have published := (sound.intakes i (List.mem_of_getElem? hi)).kept
  -- The copy that is handled may be the task itself or what failed attempts have made of it.
  have route {task : Envelope} (taken : Envelope.ofBytes h.delivery.message.body = .ok task) :=
    descends.route published decoded taken
  have replies {isPrivate : Bool} (mode : i.event.mode.delivery? = some isPrivate) :
      h.thread.past.RepliesGo i.event.tenant i.event.conversationId isPrivate := by
    intro t c text p answer posted
    obtain ⟨task, taken, delivery, rfl, rfl⟩ := TaskHandler.reply_of_kept kept posted
    obtain ⟨tenant, conversation, same⟩ := route taken
    rw [same, mode] at delivery
    exact ⟨tenant, conversation, (Option.some.inj delivery).symm⟩
  refine ⟨fun assist => replies ?_, fun plain => replies ?_, fun name hm auto assist => ?_, ?_⟩
  · rw [Event.mode_of_name assist]
    rfl
  · rcases plain with auto | none
    · rw [Event.mode_of_name auto]
      rfl
    · rw [Event.mode_of_no_name none]
      rfl
  · have unposted : i.event.mode.delivery? = none := by
      rw [Event.mode_of_name hm]
      exact ResponseMode.delivery?_ofName auto assist
    constructor
    · intro t c text p answer posted
      obtain ⟨task, taken, delivery, -⟩ := TaskHandler.reply_of_kept kept posted
      rw [(route taken).2.2, unposted] at delivery
      cases delivery
    · intro made
      have success := TaskHandler.stage_of_unposted kept
        (fun task taken => by rw [(route taken).2.2, unposted]) made
      exact TaskHandler.completes_of_success success rest
  · intro fault malformed t c text p answer posted
    obtain ⟨task, taken, -⟩ := TaskHandler.reply_of_kept kept posted
    rw [malformed] at taken
    cases taken

/-- The body of an event whose agent bot asks for assistance. -/
def assistedBody : Bytes :=
  Text.Utf8.encode ("\x7b\"account\":\x7b\"id\":3\x7d,\"agent_bot\":\x7b\"response_mode\":" ++
    "\"assist_agent\"\x7d,\"content\":\"hi\",\"conversation\":\x7b\"id\":7\x7d," ++
    "\"event\":\"message_created\",\"id\":42\x7d").toList

def assisted : Event := (Event.ofBytes assistedBody).toOption.getD .greeting

theorem ofBytes_assistedBody : Event.ofBytes assistedBody = .ok assisted := by
  have read : (Event.ofBytes assistedBody).toOption.isSome = true := by decide +kernel
  obtain ⟨event, some⟩ := Option.isSome_iff_exists.1 read
  rw [assisted, some, Json.eq_ok_of_toOption some]
  rfl

theorem event_of_move? {m : Move} {what : Happening} {s' : Traffic}
    (h : s.move? g x m = some (what, s')) :
    ∀ i ∈ s'.intakes, (∃ j ∈ s.intakes, j.event = i.event) ∨ m = .arrive i.event := by
  have same (i : Intake) (hi : i ∈ s.intakes) :
      (∃ j ∈ s.intakes, j.event = i.event) ∨ m = .arrive i.event := .inl ⟨i, hi, rfl⟩
  cases m with
  | arrive event =>
    cases h
    exact List.forall_mem_append.2 ⟨same, List.forall_mem_singleton.2 (.inr rfl)⟩
  | intake k =>
    obtain ⟨i, hi, h⟩ := Option.bind_eq_some_iff.1 h
    obtain ⟨⟨what', t, w⟩, -, heq⟩ := Option.bind_eq_some_iff.1 h
    cases heq
    obtain ⟨place, -⟩ := append_cons_of_getElem? hi
    exact forall_mem_replaced place same (same i (List.mem_of_getElem? hi))
  | take =>
    obtain ⟨⟨d, b⟩, -, heq⟩ := Option.map_eq_some_iff.1 h
    cases heq
    exact same
  | handling k =>
    obtain ⟨i, -, h⟩ := Option.bind_eq_some_iff.1 h
    obtain ⟨⟨what', t, w⟩, -, heq⟩ := Option.bind_eq_some_iff.1 h
    cases heq
    exact same
  | cut k =>
    obtain ⟨i, -, h⟩ := Option.bind_eq_some_iff.1 h
    split at h
    · cases h
      exact same
    · cases h
  | _ =>
    cases h
    exact same

theorem event_of_play? {moves : List Move} {s' : Traffic}
    (h : s.play? g x permits moves = some s') :
    ∀ i ∈ s'.intakes, (∃ j ∈ s.intakes, j.event = i.event) ∨ Move.arrive i.event ∈ moves := by
  induction moves generalizing s with
  | nil =>
    cases h
    exact fun i hi => .inl ⟨i, hi, rfl⟩
  | cons m moves ih =>
    unfold play? at h
    split at h
    next what s₁ hm =>
      split at h
      · intro i hi
        rcases ih h i hi with ⟨j, hj, same⟩ | later
        · rcases event_of_move? hm j hj with earlier | rfl
          · exact .inl (same ▸ earlier)
          · exact .inr (same ▸ List.mem_cons_self)
        · exact .inr (List.mem_cons_of_mem m later)
      · cases h
    · cases h

theorem mode_governs_replies_of_failure :
    ∃ s h i, Reaches {} {} (fun _ => true)
        { world := { quiet.world with script := [⟨none, fun _ => .failed .emptyReply⟩] } } s ∧
      s.handlings[1]? = some h ∧ h.origin = some 0 ∧ s.intakes[0]? = some i ∧
      s.world.sent = [⟨3, 7, "ok", true⟩] ∧
      h.thread.past.RepliesGo i.event.tenant i.event.conversationId true := by
  let moves := Move.arrive assisted :: List.replicate 12 (Move.intake 0) ++ Move.take ::
    List.replicate 5 (Move.handling 0) ++ Move.wait (5 * 10 ^ 9) ::
    List.replicate 9 (Move.handling 0) ++ Move.take :: List.replicate 10 (Move.handling 1)
  let start : Traffic :=
    { world := { quiet.world with script := [⟨none, fun _ => .failed .emptyReply⟩] } }
  have played : (start.play? {} {} (fun _ => true) moves).any (fun s =>
      s.world.sent == [⟨3, 7, "ok", true⟩] && s.handlings[1]?.any (fun h => h.origin == some 0) &&
        s.intakes[0]?.any fun i => i.event.modeMember.bind Value.text? == some "assist_agent") =
      true := by decide +kernel
  obtain ⟨s, hs, facts⟩ := (Option.any_eq_true ..).1 played
  simp only [Bool.and_eq_true, Option.any_eq_true, beq_iff_eq] at facts
  obtain ⟨⟨sent, h, hh, origin⟩, i, hi, mode⟩ := facts
  have run : Reaches {} {} (fun _ => true) start s := .of_play? .refl hs
  have event : i.event = assisted := by
    rcases event_of_play? hs i (List.mem_of_getElem? hi) with ⟨j, hj, -⟩ | arrived
    · cases hj
    · simpa [moves] using arrived
  have asked : i.event.modeMember = some (.string "assist_agent") := by
    obtain ⟨v, hv, text⟩ := Option.bind_eq_some_iff.1 mode
    cases v with
    | string name => cases text; exact hv
    | _ => cases text
  have idle : start.Idle := ⟨rfl, rfl, rfl, rfl⟩
  refine ⟨s, h, i, run, hh, origin, hi, sent, ?_⟩
  exact (mode_governs_replies idle run (List.mem_of_getElem? hh) origin hi
    (event ▸ ofBytes_assistedBody)).1 asked

end Traffic
end ReplyPipeline
