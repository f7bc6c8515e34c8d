import ReplyPipeline.Proofs.EventEffects
import ReplyPipeline.Proofs.Surroundings

/-!
# A store that serves

The store may take its time, but it answers every call within a limit. What a call is answered is
then what the store in memory answers at the moment of the answer (`World.ask_store_within`), and
nothing but calls does anything to the store (`World.keepsStore_of_ask`).
-/
namespace ReplyPipeline.World

variable {w w' w'' : World} {declaring : Nat}

/-- The store answers every call within a limit. -/
structure StoreServes (limit : Span) (w : World) : Prop where
  up : w.storeFailing = false
  timely : duration w.storeLatency ≤ duration limit

/-- The moment at which a call of the store is answered that is made now. -/
def served (w : World) : Moment := w.now + duration w.storeLatency

/-- The world after a call of the store that was answered in time. -/
def afterServed (w : World) (c : Store.Call) : World :=
  { w with now := w.served, store := (w.store.perform w.served c).2 }

theorem ask_store_within {limit : Span} (h : w.StoreServes limit) (c : Store.Call) :
    ask declaring (.store c (some limit)) w =
      some (.ok (w.store.perform w.served c).1, w.afterServed c) := by
  change (w.callStore c (some limit)).await w = _
  rw [callStore, deadline, Option.map_some, await_taking w _ _ _ (Nat.le_add_right _ _),
    if_pos (Nat.add_le_add_left h.timely w.now), wait_of_ge (Nat.le_add_right _ _),
    if_neg (by simp [h.up])]
  rfl

/-- Time may have passed, but the store is as before, and so is the way in which it answers. -/
structure KeepsStore (w w' : World) : Prop where
  later : w.now ≤ w'.now
  store : w'.store = w.store
  failing : w'.storeFailing = w.storeFailing
  latency : w'.storeLatency = w.storeLatency

theorem KeepsStore.refl (w : World) : w.KeepsStore w := ⟨Nat.le_refl _, rfl, rfl, rfl⟩

theorem KeepsStore.trans (h : w.KeepsStore w') (h' : w'.KeepsStore w'') : w.KeepsStore w'' :=
  ⟨Nat.le_trans h.later h'.later, h'.store.trans h.store, h'.failing.trans h.failing,
    h'.latency.trans h.latency⟩

theorem keepsStore_wait (w : World) (m : Moment) : w.KeepsStore (w.wait m) :=
  ⟨Nat.le_max_left .., rfl, rfl, rfl⟩

theorem keepsStore_begin (w : World) (r : PipelineRequest) : w.KeepsStore (w.begin r).1 := by
  obtain ⟨faults, script, calls, made⟩ := w.begin_eq r
  rw [made]
  exact ⟨Nat.le_refl _, rfl, rfl, rfl⟩

theorem keepsStore_of_poll {r : PipelineRequest} {a : r.Answer} {w₀ : World}
    (other : ∀ c limit, r ≠ .store c limit) (h : (w₀.begin r).2.poll w = some (a, w')) :
    w.KeepsStore w' := by
  have kept (w : World) := KeepsStore.refl w
  cases r with
  | store c limit => exact absurd rfl (other c limit)
  | tally c => cases h; exact ⟨Nat.le_refl _, rfl, rfl, rfl⟩
  | drop d => cases h; exact ⟨Nat.le_refl _, rfl, rfl, rfl⟩
  | leave c => cases h; exact ⟨Nat.le_refl _, rfl, rfl, rfl⟩
  | declareTopology deadline =>
    simp only [begin, Wait.atOnce] at h
    rcases w.declareTopology_cases with ⟨e, faults, failed⟩ | done
    · rw [failed] at h
      cases h
      exact ⟨Nat.le_refl _, rfl, rfl, rfl⟩
    · rw [done] at h
      cases h
      exact ⟨Nat.le_refl _, rfl, rfl, rfl⟩
  | publish e deadline =>
    rcases poll_publish h with ⟨-, rfl⟩ | ⟨-, rfl⟩
    · exact ⟨Nat.le_refl _, rfl, rfl, rfl⟩
    · exact kept w'
  | process e limit => rcases poll_taking h with ha | ha <;> cases ha <;> exact kept w
  | pause s => rcases poll_taking h with ha | ha <;> cases ha <;> exact kept w
  | reply tenant conversation text isPrivate =>
    have posted : w.post ⟨tenant, conversation, text, isPrivate⟩ = (a, w') := Option.some.inj h
    rcases w.post_cases ⟨tenant, conversation, text, isPrivate⟩ with done | ⟨e, failures, failed⟩
    · cases done.symm.trans posted
      exact ⟨Nat.le_refl _, rfl, rfl, rfl⟩
    · cases failed.symm.trans posted
      exact ⟨Nat.le_refl _, rfl, rfl, rfl⟩
  | settle d how =>
    have settled : w.settle d how = (a, w') := Option.some.inj h
    rcases w.settle_cases d how with ⟨e, faults, failed⟩ | done
    · cases failed.symm.trans settled
      exact ⟨Nat.le_refl _, rfl, rfl, rfl⟩
    · cases done.symm.trans settled
      exact ⟨Nat.le_refl _, rfl, rfl, rfl⟩
  | consume =>
    have began : w.consume = (a, w') := Option.some.inj h
    rcases w.consume_cases with ⟨e, faults, failed⟩ | done
    · cases failed.symm.trans began
      exact ⟨Nat.le_refl _, rfl, rfl, rfl⟩
    · cases done.symm.trans began
      exact ⟨Nat.le_refl _, rfl, rfl, rfl⟩
  | next c stop limit =>
    rcases poll_next h with ⟨d, b, -, -, rfl⟩ | ⟨rfl, -⟩
    · exact ⟨Nat.le_refl _, rfl, rfl, rfl⟩
    · exact kept w'
  | pauseUnlessStopped s stop =>
    obtain ⟨rfl, -⟩ := poll_pauseUnlessStopped h
    exact kept w'
  | _ => cases h; exact kept w

theorem keepsStore_of_await {α : Type} {wait : Wait α} {a : α}
    (poll : ∀ {w : World}, wait.poll w = some (a, w') → w.KeepsStore w')
    (h : wait.await w = some (a, w')) : w.KeepsStore w' := by
  rcases Option.or_eq_some_iff.1 h with now | ⟨-, later⟩
  · exact poll now
  · obtain ⟨m, -, woken⟩ := Option.bind_eq_some_iff.1 later
    exact (w.keepsStore_wait m).trans (poll woken)

/-- Only calls of the store do anything to it. -/
theorem keepsStore_of_ask {r : PipelineRequest} {a : r.Answer}
    (other : ∀ c limit, r ≠ .store c limit) (h : ask declaring r w = some (a, w')) :
    w.KeepsStore w' := by
  have plain {r : PipelineRequest} {a : r.Answer} (other : ∀ c limit, r ≠ .store c limit)
      (h : (w.begin r).2.await (w.begin r).1 = some (a, w')) : w.KeepsStore w' :=
    (w.keepsStore_begin r).trans (keepsStore_of_await (keepsStore_of_poll other) h)
  cases r with
  | declareTopology deadline =>
    refine keepsStore_of_await (fun polled => ?_) h
    rcases poll_taking polled with ha | ha
    · have answered : (w.begin (.declareTopology deadline)).2.poll _ = _ := congrArg some ha
      exact keepsStore_of_poll other answered
    · cases ha
      exact .refl _
  | store c limit => exact absurd rfl (other c limit)
  | _ => exact plain other h

variable {key : String} {limit : Span}

theorem StoreServes.of_kept (h : w.StoreServes limit) (kept : w.KeepsStore w') :
    w'.StoreServes limit :=
  ⟨kept.failing.trans h.up, kept.latency ▸ h.timely⟩

theorem not_holds_iff : ¬ w.Holds key ↔ w.store.Lacks key w.now := by
  constructor
  · intro absent e he
    by_contra young
    rw [holds_iff, Option.not_isSome_iff_eq_none] at absent
    have kept : (key, e) ∈ (w.store.purge w.now).entries :=
      List.mem_filter.2 ⟨he, decide_eq_true (Nat.lt_of_not_le young)⟩
    exact young (Store.Memory.lacks_of_find?_eq_none absent e kept)
  · intro lacks held
    rw [Holds, lacks.peek_eq_none] at held
    cases held

theorem KeepsStore.lacks (kept : w.KeepsStore w') (h : w.store.Lacks key w.now) :
    w'.store.Lacks key w'.now :=
  kept.store ▸ h.mono kept.later

theorem StoreServes.afterServed (h : w.StoreServes limit) (c : Store.Call) :
    (w.afterServed c).StoreServes limit := ⟨h.up, h.timely⟩

theorem lacks_afterServed (h : w.store.Lacks key w.now) {c : Store.Call}
    (others : Store.Memory.puts key c (w.store.perform w.served c).1 = false) :
    (w.afterServed c).store.Lacks key (w.afterServed c).now :=
  (h.mono (Nat.le_add_right _ _)).perform others

theorem lacks_afterServed_delete (w : World) (key : String) :
    (w.afterServed (.delete key)).store.Lacks key (w.afterServed (.delete key)).now := by
  intro e he
  have kept := (List.mem_filter.1 he).2
  simp at kept

end ReplyPipeline.World
