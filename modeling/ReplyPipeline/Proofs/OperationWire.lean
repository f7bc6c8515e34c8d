import ReplyPipeline.Proofs.WireRecord

/-!
# The wire of an operation

An operation of a publisher looks whether the channel in the slot is open and goes on with it, or it
connects, prepares a channel method by method, and keeps it when the last method has been accepted.
A publication follows on a channel that was got in one of these ways. `Remote.Service` says once
what an operation may put on the wire, how it ends, and what is in the slot then. What concerns the
channels follows from it: which ones an operation names, which ones fail, that what it leaves in the
slot has been prepared (`Remote.Prepared`), and when a task has been published.
-/
namespace ReplyPipeline.Broker

/-- What callers ask of a publisher. -/
inductive Operation where
  | ensureTopology
  | publish (e : Envelope)
  | checkHealth

def Operation.program (b : Remote) : Operation → ClientAction (Except Error Unit)
  | .ensureTopology => b.ensureTopology
  | .publish e => b.publish e
  | .checkHealth => b.checkHealth

/-- What an operation does with a channel that is open: a publication is made on it, and else there
is nothing to do. -/
def Operation.Uses (b : Remote) (c : ChannelId) (log : WireLog) : Operation → Prop
  | .publish e => ∃ answer, log = [⟨.publish c (.ofEnvelope b.topology.workQueue e), answer⟩]
  | _ => log = []

namespace Remote

open ClientAction WireLog

variable (b : Remote) {slot slot' : Option ChannelId} {log : WireLog}

/-- Methods are said until one is not accepted, which is the last one then. -/
theorem exchanges_sayAll {c : ChannelId} {methods : List Amqp.Method}
    {result : Option (Except Error Unit)}
    (h : Exchanges (sayAll c methods) slot log result slot') : slot' = slot ∧
      (result = some (.ok ()) ∧ log = accepted c methods ∨
        ∃ done m rest outcome, methods = done ++ m :: rest ∧ outcome ≠ some true ∧
          log = accepted c done ++ [⟨.call c m, outcome⟩] ∧
          result = outcome.map fun _ => .error m.failure) := by
  induction methods generalizing log with
  | nil =>
    obtain ⟨rfl, rfl, rfl⟩ := h
    exact ⟨rfl, .inl ⟨rfl, rfl⟩⟩
  | cons m methods ih =>
    rcases h with ⟨rfl, rfl, rfl⟩ | ⟨a, newer, rfl, h⟩
    · exact ⟨rfl, .inr ⟨[], m, methods, none, rfl, nofun, rfl, rfl⟩⟩
    · match a with
      | false =>
        obtain ⟨rfl, rfl, rfl⟩ := h
        exact ⟨rfl, .inr ⟨[], m, methods, some false, rfl, by simp, rfl, rfl⟩⟩
      | true =>
        obtain ⟨rfl, ⟨rfl, rfl⟩ | ⟨done, m', rest, outcome, rfl, refused, rfl, rfl⟩⟩ := ih h
        · exact ⟨rfl, .inl ⟨rfl, rfl⟩⟩
        · exact ⟨rfl, .inr ⟨m :: done, m', rest, outcome, rfl, refused, rfl, rfl⟩⟩

/-- What goes over the wire while a channel is opened and prepared, and what comes of it. -/
inductive Opening : WireLog → Option (Except Error ChannelId) → Prop
  | nowhere : b.address = none → Opening [] (some (.error (.connection "invalid address")))
  | refused {a : Amqp.Address} : b.address = some a →
      Opening [⟨.connect a, some none⟩] (some (.error (.connection "connect failed")))
  | unanswered {a : Amqp.Address} : b.address = some a → Opening [⟨.connect a, none⟩] none
  | halted {a : Amqp.Address} {c : ChannelId} {done rest : List Amqp.Method} {m : Amqp.Method}
      {outcome : Option Bool} : b.address = some a → b.publishMethods = done ++ m :: rest →
      outcome ≠ some true →
      Opening (⟨.connect a, some (some c)⟩ :: (accepted c done ++ [⟨.call c m, outcome⟩]))
        (outcome.map fun _ => .error m.failure)
  | opened {a : Amqp.Address} {c : ChannelId} : b.address = some a →
      Opening (⟨.connect a, some (some c)⟩ :: accepted c b.publishMethods) (some (.ok c))

/-- The channel that came of it, if one did. -/
def channelOf (result : Option (Except Error ChannelId)) : Option ChannelId :=
  result.bind Except.toOption

variable {b}

theorem opening_of_openWith {result : Option (Except Error ChannelId)}
    (h : Exchanges (b.openWith b.publishMethods) none log result slot') :
    b.Opening log result ∧ slot' = none := by
  unfold openWith at h
  match address : b.address with
  | none =>
    rw [address] at h
    obtain ⟨rfl, rfl, rfl⟩ := h
    exact ⟨.nowhere address, rfl⟩
  | some a =>
    rw [address] at h
    rcases h with ⟨rfl, rfl, rfl⟩ | ⟨answer, newer, rfl, h⟩
    · exact ⟨.unanswered address, rfl⟩
    · match answer with
      | none =>
        obtain ⟨rfl, rfl, rfl⟩ := h
        exact ⟨.refused address, rfl⟩
      | some c =>
        rcases exchanges_bind (p := sayAll c b.publishMethods) h with
          ⟨halts, rfl⟩ | ⟨said, slot₁, first, rest, ends, ⟨rfl, rfl, rfl⟩, rfl⟩
        · obtain ⟨rfl, ⟨fine, -⟩ | ⟨done, m, rest, outcome, methods, refused, rfl, ended⟩⟩ :=
            exchanges_sayAll halts
          · cases fine
          · obtain rfl : outcome = none := Option.map_eq_none_iff.1 ended.symm
            exact ⟨.halted address methods refused, rfl⟩
        · rw [List.append_nil]
          obtain ⟨rfl, ⟨fine, rfl⟩ | ⟨done, m, rest, outcome, methods, refused, rfl, ended⟩⟩ :=
            exchanges_sayAll ends
          · cases fine
            exact ⟨.opened address, rfl⟩
          · match outcome with
            | none => cases ended
            | some outcome =>
              cases ended
              exact ⟨.halted address methods refused, rfl⟩

theorem opening_of_exchanges {result : Option (Except Error ChannelId)}
    (h : Exchanges b.openPublisher none log result slot') :
    b.Opening log result ∧ slot' = channelOf result := by
  rcases exchanges_bind h with ⟨halts, rfl⟩ | ⟨result₁, slot₁, first, rest, ends, kept, rfl⟩
  · exact opening_of_openWith halts
  · obtain ⟨opening, rfl⟩ := opening_of_openWith ends
    match result₁ with
    | .ok c =>
      obtain ⟨rfl, rfl, rfl⟩ := kept
      exact ⟨by rwa [List.append_nil], rfl⟩
    | .error e =>
      obtain ⟨rfl, rfl, rfl⟩ := kept
      exact ⟨by rwa [List.append_nil], rfl⟩

variable (b) in
/-- What goes over the wire while a channel for publications is looked for, what comes of it, and
what is in the slot then. -/
inductive Fetching : Option ChannelId → WireLog → Option (Except Error ChannelId) →
    Option ChannelId → Prop
  /-- The channel in the slot is open. -/
  | kept {c : ChannelId} : Fetching (some c) [⟨.isOpen c, some true⟩] (some (.ok c)) (some c)
  | unanswered {c : ChannelId} : Fetching (some c) [⟨.isOpen c, none⟩] none (some c)
  /-- The channel in the slot is closed. -/
  | renewed {c : ChannelId} {log : WireLog} {result : Option (Except Error ChannelId)} :
      b.Opening log result →
        Fetching (some c) (⟨.isOpen c, some false⟩ :: log) result (channelOf result)
  | first {log : WireLog} {result : Option (Except Error ChannelId)} : b.Opening log result →
      Fetching none log result (channelOf result)

theorem fetching_of_exchanges {result : Option (Except Error ChannelId)}
    (h : Exchanges b.publisher slot log result slot') : b.Fetching slot log result slot' := by
  match slot with
  | none =>
    obtain ⟨opening, rfl⟩ := opening_of_exchanges h
    exact .first opening
  | some c =>
    rcases h with ⟨rfl, rfl, rfl⟩ | ⟨answer, newer, rfl, h⟩
    · exact .unanswered
    · match answer with
      | true =>
        obtain ⟨rfl, rfl, rfl⟩ := h
        exact .kept
      | false =>
        obtain ⟨opening, rfl⟩ := opening_of_exchanges h
        exact .renewed opening

/-- A channel that has been found is in the slot, and there is none if an error was met. -/
theorem Fetching.slot_eq {r : Except Error ChannelId} (h : b.Fetching slot log (some r) slot') :
    slot' = r.toOption := by
  cases h <;> rfl

variable (b) in
/-- What an operation puts on the wire, how it ends, and what is in the slot then. -/
inductive Service (slot : Option ChannelId) :
    Operation → WireLog → Option (Except Error Unit) → Option ChannelId → Prop
  /-- There is no channel. -/
  | failed {op : Operation} {log : WireLog} {cause : Error} :
      b.Fetching slot log (some (.error cause)) none →
        Service slot op log (some (.error cause)) none
  /-- The server fell silent while a channel was looked for. -/
  | unanswered {op : Operation} {log : WireLog} {slot' : Option ChannelId} :
      b.Fetching slot log none slot' → Service slot op log none slot'
  /-- There is a channel, and nothing is to be published. -/
  | found {op : Operation} {log : WireLog} {c : ChannelId} : (∀ e, op ≠ .publish e) →
      b.Fetching slot log (some (.ok c)) (some c) → Service slot op log (some (.ok ())) (some c)
  | confirmed {e : Envelope} {log : WireLog} {c : ChannelId} :
      b.Fetching slot log (some (.ok c)) (some c) →
        Service slot (.publish e)
          (log ++ [⟨.publish c (.ofEnvelope b.topology.workQueue e), some (some .acked)⟩])
          (some (.ok ())) (some c)
  /-- The publication was not taken, or the channel broke. -/
  | denied {e : Envelope} {log : WireLog} {c : ChannelId} {answer : Option Confirmation}
      {cause : Error} : answer ≠ some .acked → b.Fetching slot log (some (.ok c)) (some c) →
        Service slot (.publish e)
          (log ++ [⟨.publish c (.ofEnvelope b.topology.workQueue e), some answer⟩])
          (some (.error cause)) none
  /-- The server fell silent on the publication. -/
  | unconfirmed {e : Envelope} {log : WireLog} {c : ChannelId} :
      b.Fetching slot log (some (.ok c)) (some c) →
        Service slot (.publish e)
          (log ++ [⟨.publish c (.ofEnvelope b.topology.workQueue e), none⟩]) none (some c)

theorem service_of_publish {e : Envelope} {result : Option (Except Error Unit)}
    (h : Exchanges (b.publish e) slot log result slot') :
    b.Service slot (.publish e) log result slot' := by
  rcases exchanges_bind (p := b.publisher) h with
    ⟨halts, rfl⟩ | ⟨found, slot₁, first, rest, finds, goesOn, rfl⟩
  · exact .unanswered (fetching_of_exchanges halts)
  · have fetching := fetching_of_exchanges finds
    obtain rfl := fetching.slot_eq
    match found with
    | .error cause =>
      obtain ⟨rfl, rfl, rfl⟩ := goesOn
      rw [List.append_nil]
      exact .failed fetching
    | .ok c =>
      rcases goesOn with ⟨rfl, rfl, rfl⟩ | ⟨answer, newer, rfl, goesOn⟩
      · exact .unconfirmed fetching
      · match answer with
        | some .acked =>
          obtain ⟨rfl, rfl, rfl⟩ := goesOn
          exact .confirmed fetching
        | some .nacked =>
          obtain ⟨rfl, rfl, rfl⟩ := goesOn
          exact .denied nofun fetching
        | none =>
          obtain ⟨rfl, rfl, rfl⟩ := goesOn
          exact .denied nofun fetching

theorem service_of_bind {op : Operation}
    {f : Except Error ChannelId → ClientAction (Except Error Unit)}
    {result : Option (Except Error Unit)} (quiet : ∀ e, op ≠ .publish e)
    (fails : ∀ {cause log result slot'}, Exchanges (f (.error cause)) none log result slot' →
      log = [] ∧ result = some (.error cause) ∧ slot' = none)
    (succeeds : ∀ {c log result slot'}, Exchanges (f (.ok c)) (some c) log result slot' →
      log = [] ∧ result = some (.ok ()) ∧ slot' = some c)
    (h : Exchanges (b.publisher.bind f) slot log result slot') :
    b.Service slot op log result slot' := by
  rcases exchanges_bind h with ⟨halts, rfl⟩ | ⟨found, slot₁, first, rest, finds, goesOn, rfl⟩
  · exact .unanswered (fetching_of_exchanges halts)
  · have fetching := fetching_of_exchanges finds
    obtain rfl := fetching.slot_eq
    match found with
    | .error cause =>
      obtain ⟨rfl, rfl, rfl⟩ := fails goesOn
      rw [List.append_nil]
      exact .failed fetching
    | .ok c =>
      obtain ⟨rfl, rfl, rfl⟩ := succeeds goesOn
      rw [List.append_nil]
      exact .found quiet fetching

/-- Every operation is done in one of these ways. -/
theorem service_of_exchanges {op : Operation} {result : Option (Except Error Unit)}
    (h : Exchanges (op.program b) slot log result slot') : b.Service slot op log result slot' := by
  cases op with
  | ensureTopology => exact service_of_bind (fun _ => nofun) id id h
  | publish e => exact service_of_publish h
  | checkHealth => exact service_of_bind (fun _ => nofun) id id h

variable (b) in
/-- A channel has been opened where the server is, and been put into confirm mode; the dead-letter
exchange, the dead-letter queue, what binds them and the work queue have been declared on it. Each
was said once, in this order, and has been accepted, and nothing else was said. -/
structure Prepared (c : ChannelId) (log : WireLog) : Prop where
  opened : ∃ a, b.address = some a ∧ (⟨.connect a, some (some c)⟩ : WireExchange) ∈ log
  said : log.said c =
    [(.openChannel, some true),
     (.selectConfirms, some true),
     (.declareExchange b.topology.deadLetterExchange "direct", some true),
     (.declareQueue b.topology.deadLetterQueue [], some true),
     (.bindQueue b.topology.deadLetterQueue b.topology.deadLetterExchange
        b.topology.deadLetterQueue, some true),
     (.declareQueue b.topology.workQueue
        [("x-dead-letter-exchange", b.topology.deadLetterExchange),
         ("x-dead-letter-routing-key", b.topology.deadLetterQueue)], some true)]

variable {c : ChannelId} {newer : WireLog}

theorem Prepared.opened_mem (h : b.Prepared c log) : c ∈ log.opened := by
  obtain ⟨a, -, connected⟩ := h.opened
  exact List.mem_filterMap.2 ⟨_, connected, rfl⟩

theorem Prepared.append (h : b.Prepared c log) (quiet : newer.said c = []) :
    b.Prepared c (log ++ newer) where
  opened := by
    obtain ⟨a, address, connected⟩ := h.opened
    exact ⟨a, address, List.mem_append_left _ connected⟩
  said := by rw [said_append, quiet, List.append_nil, h.said]

theorem Prepared.append_left (h : b.Prepared c newer) (quiet : log.said c = []) :
    b.Prepared c (log ++ newer) where
  opened := by
    obtain ⟨a, address, connected⟩ := h.opened
    exact ⟨a, address, List.mem_append_right _ connected⟩
  said := by rw [said_append, quiet, List.nil_append, h.said]

/-- Nothing is published while a channel is opened, and all is about that channel. -/
theorem Opening.of_mem {result : Option (Except Error ChannelId)} (h : b.Opening log result)
    {x : WireExchange} (hx : x ∈ log) :
    x.isPublication = false ∧ ∀ c, x.request.channel? = some c → c ∈ log.opened := by
  cases h with
  | nowhere => cases hx
  | refused => cases List.mem_singleton.1 hx; exact ⟨rfl, nofun⟩
  | unanswered => cases List.mem_singleton.1 hx; exact ⟨rfl, nofun⟩
  | @halted a c done rest m outcome =>
    rcases List.mem_cons.1 hx with rfl | hx
    · exact ⟨rfl, nofun⟩
    · rcases List.mem_append.1 hx with hx | hx
      · refine ⟨isPublication_of_mem_accepted hx, fun d about => ?_⟩
        cases (channel?_of_mem_accepted hx).symm.trans about
        exact List.mem_cons_self
      · cases List.mem_singleton.1 hx
        refine ⟨rfl, fun d about => ?_⟩
        cases about
        exact List.mem_cons_self
  | @opened a c =>
    rcases List.mem_cons.1 hx with rfl | hx
    · exact ⟨rfl, nofun⟩
    · refine ⟨isPublication_of_mem_accepted hx, fun d about => ?_⟩
      cases (channel?_of_mem_accepted hx).symm.trans about
      exact List.mem_cons_self

theorem Opening.begins {result : Option (Except Error ChannelId)} (h : b.Opening log result) :
    ∀ x ∈ log.head?, x.isConnect = true := by
  cases h with
  | nowhere => nofun
  | _ => rintro x ⟨⟩; rfl

/-- A channel that has been opened has been prepared. -/
theorem Opening.prepared {result : Option (Except Error ChannelId)} (h : b.Opening log result)
    (kept : channelOf result = some c) : b.Prepared c log := by
  cases h with
  | opened address =>
    cases kept
    exact ⟨⟨_, address, List.mem_cons_self⟩, said_accepted⟩
  | @halted a d done rest m outcome =>
    cases outcome <;> cases kept
  | _ => cases kept

theorem Fetching.of_mem {result : Option (Except Error ChannelId)}
    (h : b.Fetching slot log result slot') {x : WireExchange} (hx : x ∈ log) :
    x.isPublication = false ∧
      ∀ c, x.request.channel? = some c → slot = some c ∨ c ∈ log.opened := by
  cases h with
  | kept => cases List.mem_singleton.1 hx; exact ⟨rfl, fun _ => .inl⟩
  | unanswered => cases List.mem_singleton.1 hx; exact ⟨rfl, fun _ => .inl⟩
  | first opening =>
    exact (opening.of_mem hx).imp_right fun about c h => .inr (about c h)
  | renewed opening =>
    rcases List.mem_cons.1 hx with rfl | hx
    · exact ⟨rfl, fun _ => .inl⟩
    · exact (opening.of_mem hx).imp_right fun about c h => .inr (about c h)

theorem Fetching.calm {result : Option (Except Error ChannelId)}
    (h : b.Fetching slot log result slot') : ∀ x ∈ log, x.failed? = none :=
  fun _ hx => WireExchange.failed?_eq_none (h.of_mem hx).1

theorem Fetching.begins {result : Option (Except Error ChannelId)}
    (h : b.Fetching none log result slot') : ∀ x ∈ log.head?, x.isConnect = true := by
  cases h with
  | first opening => exact opening.begins

/-- What is in the slot then was there before, and nothing has been said on it since, or it has been
prepared. -/
theorem Fetching.prepared {result : Option (Except Error ChannelId)}
    (h : b.Fetching slot log result (some c)) :
    slot = some c ∧ log.said c = [] ∨ b.Prepared c log := by
  generalize kept : some c = slot' at h
  cases h with
  | kept => cases kept; exact .inl ⟨rfl, rfl⟩
  | unanswered => cases kept; exact .inl ⟨rfl, rfl⟩
  | first opening => exact .inr (opening.prepared kept.symm)
  | @renewed d log result opening =>
    have closed : WireLog.said c [⟨.isOpen d, some false⟩] = [] := rfl
    exact .inr ((opening.prepared kept.symm).append_left closed)

theorem Fetching.goesOn {result : Option (Except Error ChannelId)}
    (h : b.Fetching (some c) log result slot') : ∃ looked rest,
      log = ⟨.isOpen c, looked⟩ :: rest ∧
        (looked = some true → rest = [] ∧ result = some (.ok c)) := by
  cases h with
  | kept => exact ⟨some true, [], rfl, fun _ => ⟨rfl, rfl⟩⟩
  | unanswered => exact ⟨none, [], rfl, fun h => by cases h⟩
  | renewed opening => exact ⟨some false, _, rfl, fun h => by cases h⟩

theorem Fetching.slot_of_nil {result : Option (Except Error ChannelId)}
    (h : b.Fetching slot [] result slot') : slot' = none := by
  cases h with
  | first opening => cases opening; rfl

section Service

variable {op : Operation} {result : Option (Except Error Unit)}

/-- An operation looks for a channel and publishes on it once at most, and keeps it unless it
fails then. -/
theorem Service.split (h : b.Service slot op log result slot') :
    (∃ found, b.Fetching slot log found slot') ∨
      ∃ front d p answer, log = front ++ [⟨.publish d p, answer⟩] ∧
        b.Fetching slot front (some (.ok d)) (some d) ∧
        (slot' = none ∧ (∃ cause, result = some (.error cause)) ∨ slot' = some d) := by
  cases h with
  | failed fetching => exact .inl ⟨_, fetching⟩
  | unanswered fetching => exact .inl ⟨_, fetching⟩
  | found quiet fetching => exact .inl ⟨_, fetching⟩
  | confirmed fetching => exact .inr ⟨_, _, _, _, rfl, fetching, .inr rfl⟩
  | denied refused fetching => exact .inr ⟨_, _, _, _, rfl, fetching, .inl ⟨rfl, _, rfl⟩⟩
  | unconfirmed fetching => exact .inr ⟨_, _, _, _, rfl, fetching, .inr rfl⟩

theorem Service.about (h : b.Service slot op log result slot') {x : WireExchange} (hx : x ∈ log)
    (about : x.request.channel? = some c) : slot = some c ∨ c ∈ log.opened := by
  rcases h.split with ⟨found, fetching⟩ | ⟨front, d, p, answer, rfl, fetching, -⟩
  · exact (fetching.of_mem hx).2 c about
  · rw [opened_append]
    rcases List.mem_append.1 hx with hx | hx
    · exact ((fetching.of_mem hx).2 c about).imp_right (List.mem_append_left _)
    · cases List.mem_singleton.1 hx
      cases about
      rcases fetching.prepared with ⟨same, -⟩ | prepared
      · exact .inl same
      · exact .inr (List.mem_append_left _ prepared.opened_mem)

theorem Service.begins (h : b.Service none op log result slot') :
    ∀ x ∈ log.head?, x.isConnect = true := by
  rcases h.split with ⟨found, fetching⟩ | ⟨front, d, p, answer, rfl, fetching, -⟩
  · exact fetching.begins
  · match front, fetching with
    | [], fetching => cases fetching.slot_of_nil
    | x :: front, fetching => exact fetching.begins

/-- What it leaves in the slot was there before, and nothing has been said on it since, or it has
been prepared. -/
theorem Service.prepared (h : b.Service slot op log result (some c)) :
    slot = some c ∧ log.said c = [] ∨ b.Prepared c log := by
  rcases h.split with
    ⟨found, fetching⟩ | ⟨front, d, p, answer, rfl, fetching, ⟨empty, -⟩ | kept⟩
  · exact fetching.prepared
  · cases empty
  · cases kept
    rcases fetching.prepared with ⟨same, quiet⟩ | prepared
    · exact .inl ⟨same, by rw [said_append, quiet]; rfl⟩
    · exact .inr (prepared.append rfl)

theorem Service.slot_of_nil (h : b.Service slot op [] result slot') : slot' = none := by
  rcases h.split with ⟨found, fetching⟩ | ⟨front, d, p, answer, empty, -⟩
  · exact fetching.slot_of_nil
  · cases List.append_ne_nil_of_right_ne_nil front (List.cons_ne_nil _ _) empty.symm

theorem Service.goesOn (h : b.Service (some c) op log result slot') :
    ∃ looked rest, log = ⟨.isOpen c, looked⟩ :: rest ∧
      (looked = some true → op.Uses b c rest) := by
  have publishes {e : Envelope} {log : WireLog} {d : ChannelId}
      {answer : Option (Option Confirmation)}
      (fetching : b.Fetching (some c) log (some (.ok d)) (some d)) :
      ∃ looked rest, log ++ [⟨.publish d (.ofEnvelope b.topology.workQueue e), answer⟩] =
          ⟨.isOpen c, looked⟩ :: rest ∧
        (looked = some true → (Operation.publish e).Uses b c rest) := by
    obtain ⟨looked, rest, rfl, uses⟩ := fetching.goesOn
    refine ⟨looked, _, rfl, fun isOpen => ?_⟩
    obtain ⟨rfl, same⟩ := uses isOpen
    cases same
    exact ⟨answer, rfl⟩
  cases h with
  | failed fetching =>
    obtain ⟨looked, rest, rfl, uses⟩ := fetching.goesOn
    exact ⟨looked, rest, rfl, fun isOpen => nomatch (uses isOpen).2⟩
  | unanswered fetching =>
    obtain ⟨looked, rest, rfl, uses⟩ := fetching.goesOn
    exact ⟨looked, rest, rfl, fun isOpen => nomatch (uses isOpen).2⟩
  | found quiet fetching =>
    obtain ⟨looked, rest, rfl, uses⟩ := fetching.goesOn
    refine ⟨looked, rest, rfl, fun isOpen => ?_⟩
    match op, quiet with
    | .publish e, quiet => exact absurd rfl (quiet e)
    | .ensureTopology, _ => exact (uses isOpen).1
    | .checkHealth, _ => exact (uses isOpen).1
  | confirmed fetching => exact publishes fetching
  | denied refused fetching => exact publishes fetching
  | unconfirmed fetching => exact publishes fetching

/-- If a publication fails it is the last exchange. The slot is empty then, or there is no answer
and the channel is still in the slot. -/
theorem Service.failure (h : b.Service slot op log result slot') {x : WireExchange} (hx : x ∈ log)
    (failed : x.failed? = some c) :
    log.getLast? = some x ∧
      (slot' = none ∨ slot' = some c ∧ result = none ∧ log.Awaits c) := by
  have last {log : WireLog} {y : WireExchange} (calm : ∀ x ∈ log, x.failed? = none)
      (hx : x ∈ log ++ [y]) : x = y ∧ (log ++ [y]).getLast? = some y := by
    rcases List.mem_append.1 hx with hx | hx
    · rw [calm x hx] at failed
      cases failed
    · exact ⟨List.mem_singleton.1 hx, List.getLast?_concat⟩
  cases h with
  | failed fetching => cases (fetching.calm x hx).symm.trans failed
  | unanswered fetching => cases (fetching.calm x hx).symm.trans failed
  | found quiet fetching => cases (fetching.calm x hx).symm.trans failed
  | confirmed fetching =>
    obtain ⟨rfl, -⟩ := last fetching.calm hx
    cases failed
  | denied refused fetching =>
    obtain ⟨rfl, isLast⟩ := last fetching.calm hx
    exact ⟨isLast, .inl rfl⟩
  | unconfirmed fetching =>
    obtain ⟨rfl, isLast⟩ := last fetching.calm hx
    cases failed
    exact ⟨isLast, .inr ⟨rfl, rfl, _, _, rfl⟩⟩

theorem Service.leavesFailed (h : b.Service slot op log result slot') : log.LeavesFailed := by
  rcases h.split with ⟨found, fetching⟩ | ⟨front, d, p, answer, rfl, fetching, -⟩
  · exact leavesFailed_of_calm fetching.calm
  · refine (leavesFailed_of_calm fetching.calm).append
      ⟨List.pairwise_singleton .., .singleton _⟩ ?_ ?_
    · intro x hx c failed
      cases (fetching.calm x hx).symm.trans failed
    · intro x hx failed
      rw [fetching.calm x (List.mem_of_getLast? hx)] at failed
      cases failed

/-- A task has been published if the last thing on the wire is its confirmation, and not else. -/
theorem Service.ok_iff {e : Envelope} (h : b.Service slot (.publish e) log result slot') :
    result = some (.ok ()) ↔ ∃ front c, log =
      front ++ [⟨.publish c (.ofEnvelope b.topology.workQueue e), some (some .acked)⟩] := by
  have silent {log : WireLog} {found : Option (Except Error ChannelId)}
      {slot' : Option ChannelId} (fetching : b.Fetching slot log found slot') :
      ¬ ∃ front c, log =
        front ++ [⟨.publish c (.ofEnvelope b.topology.workQueue e), some (some .acked)⟩] := by
    rintro ⟨front, c, rfl⟩
    cases (fetching.of_mem (List.mem_append_right _ List.mem_cons_self)).1
  have other {log : WireLog} {d : ChannelId} {p : Amqp.Publication}
      {answer : Option (Option Confirmation)} (unconfirmed : answer ≠ some (some .acked)) :
      ¬ ∃ front c, log ++ [⟨.publish d p, answer⟩] =
        front ++ [⟨.publish c (.ofEnvelope b.topology.workQueue e), some (some .acked)⟩] := by
    rintro ⟨front, c, same⟩
    cases (List.append_inj' same rfl).2
    exact unconfirmed rfl
  cases h with
  | failed fetching => exact ⟨nofun, fun h => absurd h (silent fetching)⟩
  | unanswered fetching => exact ⟨nofun, fun h => absurd h (silent fetching)⟩
  | found quiet fetching => exact absurd rfl (quiet e)
  | confirmed fetching => exact ⟨fun _ => ⟨_, _, rfl⟩, fun _ => rfl⟩
  | denied refused fetching =>
    exact ⟨nofun, fun h => absurd h (other fun h => refused (Option.some.inj h))⟩
  | unconfirmed fetching => exact ⟨nofun, fun h => absurd h (other nofun)⟩

theorem Service.published (h : b.Service slot op log result slot') {front : WireLog}
    {p : Amqp.Publication} {answer : Option (Option Confirmation)}
    (last : log = front ++ [⟨.publish c p, answer⟩]) :
    slot = some c ∧ front.said c = [] ∨ b.Prepared c front := by
  rcases h.split with ⟨found, fetching⟩ | ⟨front', d, p', answer', log', fetching, -⟩
  · cases (fetching.of_mem (last ▸ List.mem_append_right _ List.mem_cons_self)).1
  · obtain ⟨rfl, same⟩ := List.append_inj' (last.symm.trans log') rfl
    cases same
    exact fetching.prepared

/-- An operation that does not fail on a channel that is not closed uses that channel for all it
does, and keeps it. -/
theorem Service.reuses (h : b.Service (some c) op log result slot')
    (connected : ∀ x ∈ log, x ≠ ⟨.isOpen c, some false⟩)
    (succeeds : ∀ r, result = some r → r = .ok ()) :
    slot' = some c ∧ ∀ x ∈ log, x.request = .isOpen c ∨ ∃ p, x.request = .publish c p := by
  have looks {log : WireLog} {found : Option (Except Error ChannelId)} {slot' : Option ChannelId}
      (fetching : b.Fetching (some c) log found slot')
      (connected : ∀ x ∈ log, x ≠ ⟨.isOpen c, some false⟩) :
      slot' = some c ∧ ∀ x ∈ log, x.request = .isOpen c := by
    cases fetching with
    | kept => exact ⟨rfl, List.forall_mem_singleton.2 rfl⟩
    | unanswered => exact ⟨rfl, List.forall_mem_singleton.2 rfl⟩
    | renewed opening => exact absurd rfl (connected _ List.mem_cons_self)
  rcases h.split with ⟨found, fetching⟩ | ⟨front, d, p, answer, rfl, fetching, slot⟩
  · obtain ⟨kept, uses⟩ := looks fetching connected
    exact ⟨kept, fun x hx => .inl (uses x hx)⟩
  · obtain ⟨kept, uses⟩ := looks fetching fun x hx => connected x (List.mem_append_left _ hx)
    cases kept
    refine ⟨slot.resolve_left ?_, fun x hx => ?_⟩
    · rintro ⟨-, cause, failed⟩
      cases succeeds _ failed
    · rcases List.mem_append.1 hx with hx | hx
      · exact .inl (uses x hx)
      · cases List.mem_singleton.1 hx
        exact .inr ⟨p, rfl⟩

end Service

end Remote
end ReplyPipeline.Broker
