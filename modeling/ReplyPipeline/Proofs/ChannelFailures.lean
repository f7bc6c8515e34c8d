import ReplyPipeline.Proofs.ChannelPreparation

/-!
# Channels that have failed

A publication on the kept channel may be refused, break the channel, or get no answer until its
caller is cut off. The channel is left alone from then on, with one exception: a caller that waits
for its answer is dropped from outside, or its time is up while somebody else waits for the slot.
The channel stays in the slot then, and the next operation goes on with it
(`Publishing.failed_channels_left_unless_neglected`).
-/
namespace ReplyPipeline.Broker

namespace Publisher

variable {p : Publisher} {holder : SlotHolder} {k : Caller}

theorem abandon_of_holder (h : p.holder = some holder) (same : holder.caller = k) :
    p.abandon k = p.passOn := if_pos (by simp [h, same])

theorem abandon_of_other (h : p.holder = some holder) (other : holder.caller ≠ k) :
    p.abandon k = { p with waiting := p.waiting.filter fun call => call.caller != k } :=
  if_neg (by simp [h, other])

theorem holder_passOn (p : Publisher) : p.passOn.holder = p.waiting.head?.map .ready := rfl

theorem timeOut_of_isSome {limit : Span} (h : (p.abandon k).holder.isSome = true) :
    p.timeOut limit k =
      { p.abandon k with ended := (k, .error (.timeout limit)) :: (p.abandon k).ended } := by
  have kept : (if (p.abandon k).holder.isNone then none else (p.abandon k).slot) =
      (p.abandon k).slot := if_neg (by simpa [Option.isSome_iff_ne_none] using h)
  exact congrArg (fun slot => { p.abandon k with
    slot, ended := (k, .error (.timeout limit)) :: (p.abandon k).ended }) kept

end Publisher

namespace Publishing

variable {σ : Type} {b : Remote} {answer : Answering σ} {s : Publishing σ} {c : ChannelId}
  {e : PublisherEvent} {permits : Publishing σ → PublisherEvent → Prop}

/-- A caller waits for the confirmation of a publication on the channel in the slot. -/
structure Awaits (s : Publishing σ) (c : ChannelId) (k : Caller) : Prop where
  stalled : s.publisher.holder = some (.stalled k)
  kept : s.publisher.slot = some c
  unanswered : s.log.Awaits c

/-- Such a caller is cut off and the channel stays in the slot: the call is dropped from outside, or
its time is up while somebody else waits for the slot. -/
inductive Neglects (s : Publishing σ) (c : ChannelId) : PublisherEvent → Prop
  | abandon {k : Caller} : s.Awaits c k → Neglects s c (.abandon k)
  | timeOut {k : Caller} : s.Awaits c k → s.publisher.waiting ≠ [] → Neglects s c (.timeOut k)

/-- What every run keeps in which no channel is neglected. -/
structure Tidy (s : Publishing σ) : Prop where
  left : s.log.LeavesFailed
  /-- The channel in the slot has not failed, unless its caller still waits. -/
  unfailed : ∀ c, s.publisher.slot = some c → (∃ x ∈ s.log, x.failed? = some c) →
    ∃ k, s.Awaits c k
  /-- After a failure the slot is empty, unless the caller still waits. -/
  emptied : ∀ x ∈ s.log.getLast?, ∀ c ∈ x.failed?,
    s.publisher.slot = none ∨ ∃ k, s.Awaits c k

/-- A caller goes on waiting, or is cut off and the slot emptied. -/
theorem Awaits.after {k : Caller} (h : s.Awaits c k) (cares : ¬ s.Neglects c e) :
    (s.after b answer e).publisher.slot = none ∨ (s.after b answer e).Awaits c k := by
  obtain ⟨stalled, kept, unanswered⟩ := h
  cases e with
  | enter j op =>
    refine .inr ⟨?_, (Publisher.slot_enter ..).trans kept, unanswered⟩
    simp only [Publishing.after, Publisher.enter, stalled]
  | serve =>
    rw [after_serve_of_not_ready (by simp [stalled])]
    exact .inr ⟨stalled, kept, unanswered⟩
  | abandon j =>
    by_cases same : k = j
    · subst same
      exact absurd (.abandon ⟨stalled, kept, unanswered⟩) cares
    · refine .inr ⟨?_, (Publisher.slot_abandon ..).trans kept, unanswered⟩
      simp only [Publishing.after, Publisher.abandon_of_other stalled same, stalled]
  | timeOut j =>
    by_cases same : k = j
    · subst same
      left
      have alone : s.publisher.waiting = [] := by
        by_contra some_
        exact cares (.timeOut ⟨stalled, kept, unanswered⟩ some_)
      have cut : s.publisher.abandon k = s.publisher.passOn :=
        Publisher.abandon_of_holder stalled rfl
      have free : (s.publisher.abandon k).holder.isNone = true := by
        rw [cut, Publisher.holder_passOn, alone]
        rfl
      exact if_pos free
    · have left := Publisher.abandon_of_other stalled same
      refine .inr ?_
      have held : (s.publisher.abandon j).holder.isSome = true := by rw [left]; simp [stalled]
      refine ⟨?_, ?_, unanswered⟩
      · simp only [Publishing.after, Publisher.timeOut_of_isSome held, left, stalled]
      · simp only [Publishing.after, Publisher.timeOut_of_isSome held, left, kept]

section Steps

variable {call : PublisherCall} {op : Operation} {newer : WireLog}
  {result : Option (Except Error Unit)} {slot : Option ChannelId}

theorem Tidy.unfailed_of_ready (tidy : s.Tidy)
    (ready : s.publisher.holder = some (.ready call)) (kept : s.publisher.slot = some c) :
    ∀ x ∈ s.log, x.failed? ≠ some c := by
  intro x hx failed
  obtain ⟨k, awaits⟩ := tidy.unfailed c kept ⟨x, hx, failed⟩
  cases ready.symm.trans awaits.stalled

theorem Tidy.emptied_of_ready (tidy : s.Tidy)
    (ready : s.publisher.holder = some (.ready call)) :
    ∀ x ∈ s.log.getLast?, ∀ c ∈ x.failed?, s.publisher.slot = none := by
  intro x hx c failed
  rcases tidy.emptied x hx c failed with empty | ⟨k, awaits⟩
  · exact empty
  · cases ready.symm.trans awaits.stalled

/-- If a publication fails while an operation is carried on, the slot is emptied or the caller waits
for the answer. -/
theorem awaits_of_failure (service : b.Service s.publisher.slot op newer result slot) (k : Caller)
    (server : σ) {x : WireExchange} (hx : x ∈ newer) (failed : x.failed? = some c) :
    slot = none ∨ ∃ k', Awaits (σ := σ)
      ⟨s.publisher.carriedOn k result slot, server, s.log ++ newer⟩ c k' := by
  obtain ⟨-, empty | ⟨kept, halted, earlier, p, last⟩⟩ := service.failure hx failed
  · exact .inl empty
  · refine .inr ⟨k, ?_, ?_, s.log ++ earlier, p, ?_⟩
    · rw [halted]
      rfl
    · exact (Publisher.slot_carriedOn ..).trans kept
    · rw [last, List.append_assoc]

theorem Tidy.carriedOn (tidy : s.Tidy) (sound : s.Sound b)
    (ready : s.publisher.holder = some (.ready call))
    (service : b.Service s.publisher.slot op newer result slot) (server : σ)
    (own : WireLog.HasOwnChannels (s.log ++ newer)) :
    Tidy (σ := σ) ⟨s.publisher.carriedOn call.caller result slot, server, s.log ++ newer⟩ := by
  constructor
  · refine tidy.left.append service.leavesFailed ?_ ?_
    · intro x hx c failed y hy about
      rcases service.about hy about with kept | opened
      · exact tidy.unfailed_of_ready ready kept x hx failed
      · exact sound.known.fresh own opened x hx (WireExchange.channel?_of_failed? failed)
    · intro x hx failed
      obtain ⟨c, failed⟩ := Option.isSome_iff_exists.1 failed
      rw [tidy.emptied_of_ready ready x hx c failed] at service
      exact service.begins
  · rintro c kept ⟨x, hx, failed⟩
    obtain rfl : slot = some c := (Publisher.slot_carriedOn ..).symm.trans kept
    rcases List.mem_append.1 hx with hx | hx
    · rcases service.prepared with ⟨same, -⟩ | prepared
      · exact absurd failed (tidy.unfailed_of_ready ready same x hx)
      · exact absurd (WireExchange.channel?_of_failed? failed)
          (sound.known.fresh own prepared.opened_mem x hx)
    · exact (awaits_of_failure service call.caller server hx failed).resolve_left nofun
  · intro x hx c failed
    have empties (empty : slot = none) :
        (s.publisher.carriedOn call.caller result slot).slot = none :=
      (Publisher.slot_carriedOn ..).trans empty
    rcases List.eq_nil_or_concat' newer with rfl | ⟨front, y, rfl⟩
    · exact .inl (empties service.slot_of_nil)
    · rw [← List.append_assoc, List.getLast?_concat] at hx
      cases hx
      exact (awaits_of_failure service call.caller server
        (List.mem_append_right _ List.mem_cons_self) failed).imp_left empties

theorem Tidy.unrecorded (tidy : s.Tidy) (cares : ∀ c, ¬ s.Neglects c e)
    (log : (s.after b answer e).log = s.log)
    (slot : (s.after b answer e).publisher.slot = none ∨
      (s.after b answer e).publisher.slot = s.publisher.slot) :
    (s.after b answer e).Tidy := by
  have stays {c : ChannelId} (h : ∃ k, s.Awaits c k) :
      (s.after b answer e).publisher.slot = none ∨ ∃ k, (s.after b answer e).Awaits c k := by
    obtain ⟨k, awaits⟩ := h
    exact (awaits.after (cares c)).imp_right fun h => ⟨k, h⟩
  constructor
  · rw [log]
    exact tidy.left
  · intro c kept failed
    rw [log] at failed
    rcases slot with empty | same
    · cases empty.symm.trans kept
    · refine (stays (tidy.unfailed c (same.symm.trans kept) failed)).resolve_left fun empty => ?_
      cases empty.symm.trans kept
  · intro x hx c failed
    rw [log] at hx
    rcases slot with empty | same
    · exact .inl empty
    · rcases tidy.emptied x hx c failed with empty | awaits
      · exact .inl (same.trans empty)
      · exact stays awaits

/-- A step that neglects no channel leaves alone what has failed. -/
theorem Tidy.after (tidy : s.Tidy) (sound : s.Sound b)
    (own : (s.after b answer e).log.HasOwnChannels) (cares : ∀ c, ¬ s.Neglects c e) :
    (s.after b answer e).Tidy := by
  rcases sound.after_cases answer e with
    ⟨call, op, newer, result, slot, server, -, ready, -, service, eq⟩ | ⟨log, slot⟩
  · rw [eq] at own ⊢
    exact tidy.carriedOn sound ready service server own
  · exact tidy.unrecorded cares log slot

end Steps

theorem Neglects.failed (h : s.Neglects c e) : ∃ x ∈ s.log, x.failed? = some c := by
  have unanswered : s.log.Awaits c := by
    cases h with
    | abandon awaits => exact awaits.unanswered
    | timeOut awaits others => exact awaits.unanswered
  obtain ⟨earlier, p, log⟩ := unanswered
  exact ⟨_, log ▸ List.mem_append_right _ List.mem_cons_self, rfl⟩

variable (b answer) in
/-- Nothing has become of a channel that was neglected, and the slot goes to whoever waits first. -/
theorem Neglects.kept (h : s.Neglects c e) :
    (s.after b answer e).publisher.slot = some c ∧ (s.after b answer e).log = s.log ∧
      (s.after b answer e).publisher.holder = s.publisher.waiting.head?.map .ready := by
  have cut {k : Caller} (awaits : s.Awaits c k) : s.publisher.abandon k = s.publisher.passOn :=
    Publisher.abandon_of_holder awaits.stalled rfl
  cases h with
  | abandon awaits =>
    exact ⟨(Publisher.slot_abandon ..).trans awaits.kept, rfl,
      congrArg Publisher.holder (cut awaits)⟩
  | @timeOut k awaits others =>
    have next : (s.publisher.abandon k).holder.isSome = true := by
      rw [cut awaits, Publisher.holder_passOn, Option.isSome_map, List.isSome_head?]
      exact others
    change (s.publisher.timeOut b.limit k).slot = _ ∧ s.log = s.log ∧
      (s.publisher.timeOut b.limit k).holder = _
    rw [Publisher.timeOut_of_isSome next]
    exact ⟨(Publisher.slot_abandon ..).trans awaits.kept, rfl,
      congrArg Publisher.holder (cut awaits)⟩

/-- The next thing that is asked for is whether a channel is open, and if it is the caller goes on
with it. -/
def GoesOnWith (b : Remote) (answer : Answering σ) (s : Publishing σ) (c : ChannelId) : Prop :=
  ∃ (call : PublisherCall) (op : Operation) (looked : Option Bool) (rest : WireLog),
    s.publisher.holder = some (.ready call) ∧ call.program = op.program b ∧
      (s.after b answer .serve).log = s.log ++ ⟨.isOpen c, looked⟩ :: rest ∧
      (looked = some true → op.Uses b c rest)

theorem Sound.goesOnWith (sound : s.Sound b) (kept : s.publisher.slot = some c)
    {call : PublisherCall} (ready : s.publisher.holder = some (.ready call)) :
    s.GoesOnWith b answer c := by
  obtain ⟨op, newer, result, slot, server, is, service, eq⟩ := sound.serve answer ready
  rw [kept] at service
  obtain ⟨looked, rest, log, uses⟩ := service.goesOn
  exact ⟨call, op, looked, rest, ready, is, by rw [eq, log], uses⟩

/-- Failed channels are left alone in every run in which none is neglected. A channel that is
neglected has failed, and whoever has the slot next goes on with it: the first that waits, or else
the next that calls. -/
theorem failed_channels_left_unless_neglected (b : Remote) (answer : Answering σ) (server : σ) :
    (∀ s, Reaches b answer (fun s e => ∀ c, ¬ s.Neglects c e) { server } s →
      s.log.HasOwnChannels → s.log.LeavesFailed) ∧
    ∀ s c e, Reaches b answer (fun _ _ => True) { server } s → s.Neglects c e →
      (∃ x ∈ s.log, x.failed? = some c) ∧
        (s.publisher.waiting ≠ [] → (s.after b answer e).GoesOnWith b answer c) ∧
        ∀ k op, ((s.after b answer e).after b answer (.enter k op)).GoesOnWith b answer c := by
  constructor
  · intro s run own
    suffices tidy : s.Tidy from tidy.left
    induction run with
    | refl => exact ⟨⟨.nil, .nil⟩, nofun, nofun⟩
    | step run cares ih =>
      have sound := run.sound
      obtain ⟨newer, log⟩ := sound.log_after answer _
      exact (ih (log ▸ own).of_append).after sound own cares
  · intro s c e run neglects
    have cut := run.step (e := e) trivial
    obtain ⟨kept, -, holder⟩ := neglects.kept b answer
    refine ⟨neglects.failed, fun others => ?_, fun k op => ?_⟩
    · obtain ⟨call, rest, waiting⟩ := List.exists_cons_of_ne_nil others
      rw [waiting] at holder
      exact cut.sound.goesOnWith kept holder
    · let p := (s.after b answer e).publisher
      have slot := (p.slot_enter ⟨k, op.program b⟩).trans kept
      have held := p.holder_enter ⟨k, op.program b⟩
      rw [holder] at held
      have next := (cut.step (e := .enter k op) trivial).sound
      cases waiting : s.publisher.waiting with
      | nil =>
        rw [waiting] at held
        exact next.goesOnWith slot held
      | cons call rest =>
        rw [waiting] at held
        exact next.goesOnWith slot held

/-- The second of two publications is not answered. -/
def unanswered : List PublisherEvent :=
  [.enter 1 announce, .serve, .enter 2 announce, .serve]

/-- The time of the second caller is up while a third one waits, which goes on with the channel; and
a second caller that is dropped from outside leaves the channel to the third one too, though nobody
ever waits. -/
theorem failed_channels_not_all_left :
    (¬ ∀ (b : Remote) (server : BrokerServer) (s : Publishing BrokerServer),
      Reaches b BrokerServer.answer (fun _ e => ∀ k, e ≠ .abandon k) { server } s →
        s.log.HasOwnChannels → s.log.LeavesFailed) ∧
    ¬ ∀ (b : Remote) (server : BrokerServer) (s : Publishing BrokerServer),
      Reaches b BrokerServer.answer (fun s _ => s.publisher.waiting = []) { server } s →
        s.log.HasOwnChannels → s.log.LeavesFailed := by
  constructor
  · intro all
    let events := unanswered ++ [.enter 3 announce, .timeOut 2, .serve]
    have run : Reaches nearby BrokerServer.answer (fun _ e => ∀ k, e ≠ .abandon k) fading
        (fading.play nearby BrokerServer.answer events) :=
      .play .refl ⟨nofun, nofun, nofun, nofun, nofun, nofun, nofun, trivial⟩
    have own : (fading.play nearby BrokerServer.answer events).log.HasOwnChannels := by
      unfold WireLog.HasOwnChannels
      decide +kernel
    exact absurd (all nearby _ _ run own).unused (by decide +kernel)
  · intro all
    let events := unanswered ++ [.abandon 2, .enter 3 announce, .serve]
    have run : Reaches nearby BrokerServer.answer (fun s _ => s.publisher.waiting = []) fading
        (fading.play nearby BrokerServer.answer events) :=
      .play .refl ⟨rfl, rfl, rfl, rfl, rfl, rfl, rfl, trivial⟩
    have own : (fading.play nearby BrokerServer.answer events).log.HasOwnChannels := by
      unfold WireLog.HasOwnChannels
      decide +kernel
    exact absurd (all nearby _ _ run own).unused (by decide +kernel)

/-- If nobody waits when the time of the second caller is up, the third one connects anew. If the
second caller is dropped then, the third one goes on with the channel. -/
theorem failed_channels_left_of_time_out :
    (∃ s, Reaches nearby BrokerServer.answer (fun s e => ∀ c, ¬ s.Neglects c e) fading s ∧
      s.log.HasOwnChannels ∧ s.log.LeavesFailed ∧ s.log.opened = [0, 1] ∧
      (∃ x ∈ s.log, x.failed? = some 0)) ∧
    ∃ s, Reaches nearby BrokerServer.answer (fun _ _ => True) fading s ∧
      s.Neglects 0 (.abandon 2) ∧
      ((s.after nearby BrokerServer.answer (.abandon 2)).after nearby BrokerServer.answer
        (.enter 3 announce)).GoesOnWith nearby BrokerServer.answer 0 := by
  obtain ⟨left, neglected⟩ :=
    failed_channels_left_unless_neglected nearby BrokerServer.answer fading.server
  constructor
  · let s := fading.play nearby BrokerServer.answer
      (unanswered ++ [.timeOut 2, .enter 3 announce, .serve])
    have run : Reaches nearby BrokerServer.answer (fun s e => ∀ c, ¬ s.Neglects c e) fading s := by
      refine .play .refl ⟨nofun, nofun, nofun, nofun, fun c h => ?_, nofun, nofun, trivial⟩
      cases h with
      | timeOut awaits others => exact others rfl
    have own : s.log.HasOwnChannels := by
      unfold WireLog.HasOwnChannels
      decide +kernel
    have failed : ∃ x ∈ s.log, x.failed? = some 0 := by decide +kernel
    exact ⟨s, run, own, left s run own, by decide +kernel, failed⟩
  · let s := fading.play nearby BrokerServer.answer unanswered
    have run : Reaches nearby BrokerServer.answer (fun _ _ => True) fading s :=
      .play .refl ⟨trivial, trivial, trivial, trivial, trivial⟩
    let greeting := Envelope.ofEvent .greeting .greeting ⟨2026, 1, 1, 0, 0, 0, 0⟩
    have kept : s.publisher.slot = some 0 := by decide +kernel
    have last : s.log = s.log.dropLast ++
        [⟨.publish 0 (.ofEnvelope nearby.topology.workQueue greeting), none⟩] := by
      decide +kernel
    have neglects : s.Neglects 0 (.abandon 2) := .abandon ⟨rfl, kept, _, _, last⟩
    exact ⟨s, run, neglects, (neglected s 0 (.abandon 2) run neglects).2.2 3 announce⟩

end Publishing
end ReplyPipeline.Broker
