import ReplyPipeline.Proofs.Places
import ReplyPipeline.Store.Basic

/-!
# Entries of the store in memory

How long an entry lasts through the calls of others, and who can take a lock. Nothing is assumed
of a store; in particular one key may have had several entries.
-/
namespace ReplyPipeline.Store.Memory

variable {m : Memory} {now till : Moment} {key : String}

@[simp] theorem find?_erase (m : Memory) (k : String) :
    (m.erase k).find? key = if key = k then none else m.find? key := by
  refine (lookup_keep m.entries (· != k) key).trans ?_
  by_cases same : key = k
  · rw [if_pos same, if_neg (by simp [same])]
  · rw [if_neg same, if_pos (by simpa using same)]
    rfl

@[simp] theorem find?_insert (m : Memory) (k : String) (e : Entry) :
    (m.insert k e).find? key = if key = k then some e else m.find? key := by
  have rest : (m.erase k).entries.lookup key = _ := find?_erase m k
  simp only [find?, insert, List.lookup_cons]
  by_cases same : key = k
  · simp [same]
  · rw [beq_eq_false_iff_ne.2 same, rest, if_neg same, if_neg same]
    rfl

theorem purge_erase (m : Memory) (k : String) : (m.erase k).purge now = (m.purge now).erase k := by
  simp only [purge, erase, List.filter_filter, Bool.and_comm]

theorem purge_insert (m : Memory) (k : String) (e : Entry) :
    (m.insert k e).purge now =
      if now < e.expiresAt then (m.purge now).insert k e else (m.purge now).erase k := by
  have rest : (m.erase k).purge now = (m.purge now).erase k := purge_erase m k
  by_cases young : now < e.expiresAt
  · rw [if_pos young, insert, purge, List.filter_cons_of_pos (by simpa using young)]
    exact congrArg (fun kept : Memory => Memory.mk ((k, e) :: kept.entries)) rest
  · rw [if_neg young, insert, purge, List.filter_cons_of_neg (by simpa using young)]
    exact rest

theorem purge_purge (m : Memory) {later : Moment} (h : now ≤ later) :
    (m.purge now).purge later = m.purge later := by
  simp only [purge, Memory.mk.injEq, List.filter_filter]
  refine List.filter_congr fun (_, e) _ => ?_
  by_cases young : later < e.expiresAt
  · simp [young, Nat.lt_of_le_of_lt h young]
  · simp [young]

theorem purge_self (m : Memory) (now : Moment) : (m.purge now).purge now = m.purge now :=
  m.purge_purge (Nat.le_refl now)

theorem erase_of_find?_eq_none (h : m.find? key = none) : m.erase key = m := by
  obtain ⟨entries⟩ := m
  simp only [erase, Memory.mk.injEq, List.filter_eq_self]
  rintro ⟨k, e⟩ he
  have other : k ≠ key := by
    rintro rfl
    have found : (entries.lookup k).isSome = true :=
      List.lookup_isSome_iff.2 ⟨(k, e), he, by simp⟩
    rw [show entries.lookup k = none from h] at found
    cases found
  simpa using other

/-- An entry that is put where there is none and then removed leaves nothing behind. -/
theorem erase_insert {e : Entry} (h : m.find? key = none) : (m.insert key e).erase key = m := by
  have removed : (m.insert key e).erase key = (m.erase key).erase key :=
    congrArg Memory.mk (List.filter_cons_of_neg (by simp))
  rw [removed, erase_of_find?_eq_none h, erase_of_find?_eq_none h]

/-- There is an entry under a key that does not expire before a moment. -/
def Lasts (m : Memory) (key : String) (till : Moment) : Prop :=
  ∃ e, (key, e) ∈ m.entries ∧ till ≤ e.expiresAt

/-- The calls after which an entry that lasted till a moment still does. -/
def Spares (now till : Moment) (key : String) : Call → Prop
  | .set k _ ttl => k = key → till ≤ now + ttl.nanos
  | .delete k => k ≠ key
  | _ => True

theorem Lasts.purge (h : m.Lasts key till) (hn : now < till) : (m.purge now).Lasts key till := by
  obtain ⟨e, he, ht⟩ := h
  refine ⟨e, List.mem_filter.2 ⟨he, ?_⟩, ht⟩
  simpa using Nat.lt_of_lt_of_le hn ht

theorem Lasts.insert_ne {k : String} {e : Entry} (h : m.Lasts key till) (hk : k ≠ key) :
    (m.insert k e).Lasts key till := by
  obtain ⟨e', he, ht⟩ := h
  refine ⟨e', List.mem_cons_of_mem _ (List.mem_filter.2 ⟨he, ?_⟩), ht⟩
  simpa using Ne.symm hk

theorem Lasts.insert_self {e : Entry} (ht : till ≤ e.expiresAt) : (m.insert key e).Lasts key till :=
  ⟨e, List.mem_cons_self, ht⟩

theorem Lasts.find?_isSome (h : m.Lasts key till) : (m.find? key).isSome = true := by
  obtain ⟨e, he, -⟩ := h
  exact List.lookup_isSome_iff.2 ⟨(key, e), he, by simp⟩

theorem Lasts.peek_isSome (h : m.Lasts key till) (hn : now < till) :
    (m.peek now key).isSome = true := by
  unfold peek
  rw [Option.isSome_map]
  exact (h.purge hn).find?_isSome

/-- An entry lasts through the calls that spare it. -/
theorem Lasts.perform {c : Call} (h : m.Lasts key till) (hn : now < till)
    (hc : Spares now till key c) : (m.perform now c).2.Lasts key till := by
  have kept := h.purge hn
  cases c with
  | setIfAbsent k value ttl =>
    simp only [Memory.perform]
    split
    · exact kept
    next free =>
      refine kept.insert_ne ?_
      rintro rfl
      exact free kept.find?_isSome
  | set k value ttl =>
    by_cases hk : k = key
    · subst hk
      exact Lasts.insert_self (hc rfl)
    · exact kept.insert_ne hk
  | contains k => exact kept
  | get k => exact kept
  | delete k =>
    obtain ⟨e, he, ht⟩ := kept
    refine ⟨e, List.mem_filter.2 ⟨he, ?_⟩, ht⟩
    simpa using Ne.symm hc
  | ping => exact h

/-- A lock is taken only where no entry lasts, and lasts itself afterwards. -/
theorem setIfAbsent_eq_true {value : String} {ttl : Span}
    (h : (m.perform now (.setIfAbsent key value ttl)).1 = true) :
    (∀ t, now < t → ¬ m.Lasts key t) ∧
      (m.perform now (.setIfAbsent key value ttl)).2.Lasts key (now + ttl.nanos) := by
  simp only [perform] at h ⊢
  split at h
  · cases h
  next free =>
    rw [if_neg free]
    refine ⟨fun t ht hl => free (hl.purge ht).find?_isSome, Lasts.insert_self (Nat.le_refl _)⟩

/-- There is no entry under a key that has not expired at a moment. -/
def Lacks (m : Memory) (key : String) (now : Moment) : Prop :=
  ∀ e, (key, e) ∈ m.entries → e.expiresAt ≤ now

theorem Lacks.mono {later : Moment} (h : m.Lacks key now) (hn : now ≤ later) : m.Lacks key later :=
  fun e he => Nat.le_trans (h e he) hn

theorem Lacks.purge (h : m.Lacks key now) : (m.purge now).Lacks key now :=
  fun e he => h e (List.mem_filter.1 he).1

theorem Lacks.erase (h : m.Lacks key now) (k : String) : (m.erase k).Lacks key now :=
  fun e he => h e (List.mem_filter.1 he).1

theorem Lacks.insert_ne {k : String} {e : Entry} (h : m.Lacks key now) (hk : k ≠ key) :
    (m.insert k e).Lacks key now := by
  intro e' he
  rcases List.mem_cons.1 he with he | he
  · exact absurd (congrArg Prod.fst he).symm hk
  · exact h.erase k e' he

theorem lacks_of_find?_eq_none (h : (m.purge now).find? key = none) :
    (m.purge now).Lacks key now := by
  intro e he
  have found : ((m.purge now).find? key).isSome = true :=
    List.lookup_isSome_iff.2 ⟨(key, e), he, by simp⟩
  rw [h] at found
  cases found

theorem Lacks.find?_eq_none (h : m.Lacks key now) : (m.purge now).find? key = none := by
  rw [← Option.not_isSome_iff_eq_none]
  intro found
  obtain ⟨⟨k, e⟩, he, hk⟩ := List.lookup_isSome_iff.1 found
  obtain rfl : key = k := beq_iff_eq.1 hk
  obtain ⟨held, young⟩ := List.mem_filter.1 he
  exact Nat.not_le_of_lt (of_decide_eq_true young) (h e held)

theorem Lacks.peek_eq_none (h : m.Lacks key now) : m.peek now key = none :=
  congrArg (Option.map Entry.value) h.find?_eq_none

theorem Lacks.contains (h : m.Lacks key now) : (m.perform now (.contains key)).1 = false :=
  congrArg Option.isSome h.find?_eq_none

theorem Lacks.setIfAbsent (h : m.Lacks key now) (value : String) (ttl : Span) :
    (m.perform now (.setIfAbsent key value ttl)).1 = true := by
  simp only [perform]
  rw [if_neg (by simp [h.find?_eq_none])]

/-- A call puts an entry under a key, if it is answered so. -/
def puts (key : String) : (c : Call) → c.Answer → Bool
  | .set k _ _, _ => k == key
  | .setIfAbsent k _ _, taken => taken && k == key
  | _, _ => false

/-- A key without an entry stays so through the calls that put none there. -/
theorem Lacks.perform {c : Call} (h : m.Lacks key now)
    (hc : puts key c (m.perform now c).1 = false) : (m.perform now c).2.Lacks key now := by
  cases c with
  | setIfAbsent k value ttl =>
    simp only [Memory.perform] at hc ⊢
    split
    · exact h.purge
    next free =>
      rw [if_neg free] at hc
      exact h.purge.insert_ne (by simpa [puts] using hc)
  | set k value ttl => exact h.purge.insert_ne (by simpa [puts] using hc)
  | contains k => exact h.purge
  | get k => exact h.purge
  | delete k => exact h.purge.erase k
  | ping => exact h

/-- An entry that was not found is not there. -/
theorem lacks_of_contains (h : (m.perform now (.contains key)).1 = false) :
    (m.perform now (.contains key)).2.Lacks key now :=
  lacks_of_find?_eq_none (Option.isSome_eq_false_iff.1 h |> Option.isNone_iff_eq_none.1)

end ReplyPipeline.Store.Memory
