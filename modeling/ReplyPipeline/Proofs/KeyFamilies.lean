import ReplyPipeline.Proofs.Alone
import ReplyPipeline.Proofs.Entries
import ReplyPipeline.Proofs.Playing

/-!
# The two families of keys

Markers and locks are kept in one store, and the lock of an id is kept where the marker of another
id would be: of the one that begins with `lock:`. Ids are any text that is not blank, so there is
such an id. What is done under one of the two is seen under the other: the lock of the one counts as
the marker of the other. Apart from such pairs different ids do not get in each other's way, whatever
is done under them and however often the store fails (`Idempotency.ids_apart_iff`).
-/
namespace ReplyPipeline

namespace Store

def Call.key? : Call → Option String
  | .setIfAbsent key .. => some key
  | .set key .. => some key
  | .contains key => some key
  | .get key => some key
  | .delete key => some key
  | .ping => none

namespace Memory

variable {m m' : Memory} {keys : String → Prop} {now later : Moment} {c : Call} {key : String}

/-- The answer of a store to a request at a moment, unless its calls fail. -/
def ask (now : Moment) (fault : Option Error) : (r : PipelineRequest) → Memory →
    Option (r.Answer × Memory)
  | .store c _, m =>
    match fault with
    | some e => some (.error e, m)
    | none => some (.ok (m.perform now c).1, (m.perform now c).2)
  | _, _ => none

/-- From a moment on two stores tell no difference under some keys. -/
def AgreeOn (keys : String → Prop) (now : Moment) (m m' : Memory) : Prop :=
  ∀ key, keys key → ∀ t, now ≤ t → (m.purge t).find? key = (m'.purge t).find? key

theorem AgreeOn.mono (h : AgreeOn keys now m m') (hn : now ≤ later) : AgreeOn keys later m m' :=
  fun key hk t ht => h key hk t (Nat.le_trans hn ht)

theorem find?_perform_of_ne (m : Memory) {t : Moment} (ht : now ≤ t) (hc : c.key? ≠ some key) :
    ((m.perform now c).2.purge t).find? key = (m.purge t).find? key := by
  cases c with
  | setIfAbsent k value ttl =>
    have other : key ≠ k := fun same => hc (congrArg some same.symm)
    simp only [perform]
    split
    · rw [purge_purge m ht]
    · rw [purge_insert, purge_purge m ht]
      split <;> simp [other]
  | set k value ttl =>
    have other : key ≠ k := fun same => hc (congrArg some same.symm)
    simp only [perform]
    rw [purge_insert, purge_purge m ht]
    split <;> simp [other]
  | contains k => exact congrArg (·.find? key) (purge_purge m ht)
  | get k => exact congrArg (·.find? key) (purge_purge m ht)
  | delete k =>
    have other : key ≠ k := fun same => hc (congrArg some same.symm)
    simp only [perform]
    rw [purge_erase, purge_purge m ht, find?_erase, if_neg other]
  | ping => rfl

theorem AgreeOn.perform_key (h : AgreeOn (c.key? = some ·) now m m') :
    (m.perform now c).1 = (m'.perform now c).1 ∧
      AgreeOn (c.key? = some ·) now (m.perform now c).2 (m'.perform now c).2 := by
  cases c with
  | setIfAbsent k value ttl =>
    have same := h k rfl now (Nat.le_refl now)
    simp only [perform, same]
    split
    · refine ⟨rfl, fun key hk t ht => ?_⟩
      rw [purge_purge m ht, purge_purge m' ht, h key hk t ht]
    · refine ⟨rfl, fun key hk t ht => ?_⟩
      rw [purge_insert, purge_insert, purge_purge m ht, purge_purge m' ht]
      split <;> simp [h key hk t ht]
  | set k value ttl =>
    refine ⟨rfl, fun key hk t ht => ?_⟩
    simp only [perform]
    rw [purge_insert, purge_insert, purge_purge m ht, purge_purge m' ht]
    split <;> simp [h key hk t ht]
  | contains k =>
    refine ⟨congrArg Option.isSome (h k rfl now (Nat.le_refl now)), fun key hk t ht => ?_⟩
    simp only [perform]
    rw [purge_purge m ht, purge_purge m' ht, h key hk t ht]
  | get k =>
    refine ⟨congrArg (Option.map Entry.value) (h k rfl now (Nat.le_refl now)),
      fun key hk t ht => ?_⟩
    simp only [perform]
    rw [purge_purge m ht, purge_purge m' ht, h key hk t ht]
  | delete k =>
    refine ⟨rfl, fun key hk t ht => ?_⟩
    simp only [perform]
    rw [purge_erase, purge_erase, purge_purge m ht, purge_purge m' ht, find?_erase, find?_erase,
      h key hk t ht]
  | ping => exact ⟨rfl, h⟩

/-- Two stores that tell no difference under some keys do not begin to by a call of both. -/
theorem AgreeOn.perform (h : AgreeOn keys now m m') :
    AgreeOn keys now (m.perform now c).2 (m'.perform now c).2 := by
  intro key hk t ht
  by_cases about : c.key? = some key
  · refine (AgreeOn.perform_key ?_).2 key about t ht
    intro k hk'
    obtain rfl : key = k := Option.some.inj (about.symm.trans hk')
    exact h key hk
  · rw [find?_perform_of_ne m ht about, find?_perform_of_ne m' ht about]
    exact h key hk t ht

/-- Nor do they by a call of one of them that is about none of the keys. -/
theorem AgreeOn.perform_left (h : AgreeOn keys now m m')
    (hc : ∀ key, c.key? = some key → ¬ keys key) : AgreeOn keys now (m.perform now c).2 m' := by
  intro key hk t ht
  rw [find?_perform_of_ne m ht fun about => hc key about hk]
  exact h key hk t ht

end Memory
end Store

namespace Idempotency

variable {s : Idempotency} {a b : CorrelationId} {m m' : Store.Memory} {now : Moment}

/-- What can be done with the entries of a task. -/
inductive Operation where
  | isProcessed
  | status
  | tryLock
  | releaseLock
  | markProcessed (result : String)
  deriving DecidableEq, Repr

inductive Reply where
  | marked (found : Bool)
  | result (outcome : Except Store.Error (Option String))
  | lock (attempt : LockAttempt)
  | settled (outcome : Except Store.Error Unit)
  deriving DecidableEq

namespace Operation

def program (s : Idempotency) (id : CorrelationId) : Operation → Action Reply
  | .isProcessed => do return .marked (← s.isProcessed id)
  | .status => do return .result (← s.status id)
  | .tryLock => do return .lock (← s.tryLock id)
  | .releaseLock => do return .settled (← s.releaseLock id)
  | .markProcessed result => do return .settled (← s.markProcessed id result)

theorem exists_program_eq (s : Idempotency) (id : CorrelationId) (o : Operation) :
    ∃ (c : Store.Call) (read : Except Store.Error c.Answer → Reply),
      o.program s id = .call (.store c (some s.limit)) (fun a => .done (read a)) ∧
        (c.key? = some (s.markerKey id) ∨ c.key? = some (s.lockKey id)) := by
  cases o with
  | isProcessed =>
    refine ⟨.contains (s.markerKey id),
      fun a => .marked (a.toOption.getD false), ?_, .inl rfl⟩
    exact congrArg (Program.call _) (funext fun a => by cases a <;> rfl)
  | status => exact ⟨.get (s.markerKey id), .result, rfl, .inl rfl⟩
  | tryLock =>
    exact ⟨.setIfAbsent (s.lockKey id) lockValue s.lockTtl, fun a => .lock (.ofAnswer a), rfl,
      .inr rfl⟩
  | releaseLock => exact ⟨.delete (s.lockKey id), .settled, rfl, .inr rfl⟩
  | markProcessed result =>
    exact ⟨.set (s.markerKey id) result s.markerTtl, .settled, rfl, .inl rfl⟩

theorem carryOut_isSome (s : Idempotency) (id : CorrelationId) (o : Operation) (now : Moment)
    (fault : Option Store.Error) (m : Store.Memory) :
    ((o.program s id).carryOut (Store.Memory.ask now fault) m).isSome = true := by
  obtain ⟨c, read, same, -⟩ := o.exists_program_eq s id
  rw [same]
  cases fault <;> rfl

end Operation

/-- An operation for an id, the moment at which the store carries it out, and the error if it
fails. -/
structure Visit where
  moment : Moment
  fault : Option Store.Error := none
  id : CorrelationId
  operation : Operation
  deriving DecidableEq

/-- The answer to a visit, and the store after it. -/
def Visit.serve (s : Idempotency) (v : Visit) (m : Store.Memory) : Reply × Store.Memory :=
  ((v.operation.program s v.id).carryOut (Store.Memory.ask v.moment v.fault) m).get
    (v.operation.carryOut_isSome s v.id v.moment v.fault m)

/-- The answers to visits one after the other, each with the id that it is for. -/
def replies (s : Idempotency) : List Visit → Store.Memory → List (CorrelationId × Reply)
  | [], _ => []
  | v :: rest, m => (v.id, (v.serve s m).1) :: s.replies rest (v.serve s m).2

/-- The answers to one id are the same as if there had been no visits for another. -/
def Apart (s : Idempotency) (a b : CorrelationId) : Prop :=
  ∀ (m : Store.Memory) (visits : List Visit), visits.Pairwise (·.moment ≤ ·.moment) →
    (s.replies visits m).filter (·.1 = b) =
      (s.replies (visits.filter (·.id ≠ a)) m).filter (·.1 = b)

/-- The keys of a task. -/
def Owns (s : Idempotency) (id : CorrelationId) (key : String) : Prop :=
  key = s.markerKey id ∨ key = s.lockKey id

theorem text_injective : Function.Injective CorrelationId.text := by
  rintro ⟨text, _, _⟩ ⟨text', _, _⟩ rfl
  rfl

theorem markerKey_injective (s : Idempotency) : Function.Injective s.markerKey := by
  intro a b same
  exact text_injective ((String.append_right_inj _).1 same)

theorem lockKey_injective (s : Idempotency) : Function.Injective s.lockKey := by
  intro a b same
  exact text_injective ((String.append_right_inj _).1 same)

theorem markerKey_eq_lockKey_iff (s : Idempotency) (a b : CorrelationId) :
    s.markerKey a = s.lockKey b ↔ a.text = "lock:" ++ b.text := by
  have shape : s.lockKey b = s.keyStart ++ "processed:" ++ ("lock:" ++ b.text) := by
    have split : "processed:lock:" = "processed:" ++ "lock:" := by decide
    simp only [lockKey, split, String.append_assoc]
  rw [shape]
  exact String.append_right_inj _

theorem disjoint_of (other : a ≠ b) (first : a.text ≠ "lock:" ++ b.text)
    (second : b.text ≠ "lock:" ++ a.text) {key : String} (ha : s.Owns a key) : ¬ s.Owns b key := by
  rintro (hb | hb) <;> rcases ha with rfl | rfl
  · exact other (s.markerKey_injective hb)
  · exact second ((s.markerKey_eq_lockKey_iff b a).1 hb.symm)
  · exact first ((s.markerKey_eq_lockKey_iff a b).1 hb)
  · exact other (s.lockKey_injective hb)

theorem Visit.exists_serve_eq (s : Idempotency) (v : Visit) :
    ∃ (c : Store.Call) (read : Except Store.Error c.Answer → Reply),
      (∀ key, c.key? = some key → s.Owns v.id key) ∧
        ∀ m, v.serve s m =
          match v.fault with
          | some e => (read (.error e), m)
          | none => (read (.ok (m.perform v.moment c).1), (m.perform v.moment c).2) := by
  obtain ⟨c, read, same, about⟩ := v.operation.exists_program_eq s v.id
  refine ⟨c, read, fun key hk => ?_, fun m => ?_⟩
  · rcases about with about | about
    · exact .inl (Option.some.inj (hk.symm.trans about))
    · exact .inr (Option.some.inj (hk.symm.trans about))
  · refine Option.some.inj ((Option.some_get _).trans ?_)
    rw [same]
    cases v.fault <;> rfl

/-- A visit keeps stores alike that are alike, and is answered alike if its own keys are. -/
theorem Visit.serve_both {keys : String → Prop} (v : Visit)
    (h : Store.Memory.AgreeOn keys v.moment m m') :
    Store.Memory.AgreeOn keys v.moment (v.serve s m).2 (v.serve s m').2 ∧
      ((∀ key, s.Owns v.id key → keys key) → (v.serve s m).1 = (v.serve s m').1) := by
  obtain ⟨c, read, owns, serve⟩ := v.exists_serve_eq s
  rw [serve m, serve m']
  cases v.fault with
  | some e => exact ⟨h, fun _ => rfl⟩
  | none =>
    refine ⟨h.perform, fun own => ?_⟩
    exact congrArg (fun a => read (.ok a))
      (Store.Memory.AgreeOn.perform_key fun key hk => h key (own key (owns key hk))).1

/-- A visit of an id that owns none of the keys keeps the store alike to one without the visit. -/
theorem Visit.serve_left {keys : String → Prop} (v : Visit)
    (h : Store.Memory.AgreeOn keys v.moment m m') (foreign : ∀ key, s.Owns v.id key → ¬ keys key) :
    Store.Memory.AgreeOn keys v.moment (v.serve s m).2 m' := by
  obtain ⟨c, read, owns, serve⟩ := v.exists_serve_eq s
  rw [serve m]
  cases v.fault with
  | some e => exact h
  | none => exact h.perform_left fun key hk => foreign key (owns key hk)

/-- Ids without a key in common: the visits of one can be left out. -/
theorem replies_filter (apart : ∀ key, s.Owns a key → ¬ s.Owns b key) (visits : List Visit)
    (ordered : visits.Pairwise (·.moment ≤ ·.moment)) {m m' : Store.Memory} {now : Moment}
    (later : ∀ v ∈ visits, now ≤ v.moment) (h : Store.Memory.AgreeOn (s.Owns b) now m m') :
    (s.replies visits m).filter (·.1 = b) =
      (s.replies (visits.filter (·.id ≠ a)) m').filter (·.1 = b) := by
  induction visits generalizing m m' now with
  | nil => rfl
  | cons v rest ih =>
    obtain ⟨first, ordered⟩ := List.pairwise_cons.1 ordered
    have h := h.mono (later v List.mem_cons_self)
    by_cases own : v.id = a
    · subst own
      have other : v.id ≠ b := fun same => apart (s.markerKey v.id) (.inl rfl) (same ▸ .inl rfl)
      rw [List.filter_cons_of_neg (by simp), replies, List.filter_cons_of_neg (by simpa using other)]
      exact ih ordered first (v.serve_left h apart)
    · obtain ⟨alike, answer⟩ := v.serve_both (s := s) h
      rw [List.filter_cons_of_pos (by simpa using own), replies, replies, List.filter_cons,
        List.filter_cons, ih ordered first alike]
      by_cases mine : v.id = b
      · rw [answer fun key hk => mine ▸ hk]
      · simp [mine]

theorem apart_of_disjoint (apart : ∀ key, s.Owns a key → ¬ s.Owns b key) : s.Apart a b :=
  fun _ visits ordered =>
    replies_filter apart visits ordered (fun _ _ => Nat.zero_le _) fun _ _ _ _ => rfl

theorem Apart.second_eq (apart : s.Apart a b) (other : a ≠ b) (m : Store.Memory) (t : Moment)
    (first second : Operation) :
    (Visit.serve s ⟨t, none, b, second⟩ (Visit.serve s ⟨0, none, a, first⟩ m).2).1 =
      (Visit.serve s ⟨t, none, b, second⟩ m).1 := by
  have answers := apart m [⟨0, none, a, first⟩, ⟨t, none, b, second⟩] (by simp)
  simpa [replies, other, other.symm] using answers

theorem serve_tryLock (m : Store.Memory) (t : Moment) :
    (Visit.serve s ⟨t, none, b, .tryLock⟩ m).1 =
      .lock (if ((m.purge t).find? (s.lockKey b)).isSome then .alreadyHeld else .acquired) := by
  change Reply.lock (.ofAnswer (.ok (m.perform t (.setIfAbsent (s.lockKey b) _ _)).1)) = _
  simp only [Store.Memory.perform]
  split <;> rfl

/-- The result of a task that is kept where a lock stood lets the lock be taken when it expires. -/
theorem not_apart_of_marker (same : s.markerKey a = s.lockKey b) (other : a ≠ b) :
    ¬ s.Apart a b := by
  intro apart
  -- The lock would have stood for one moment longer than the result that has replaced it.
  let held : Store.Memory := ⟨[(s.lockKey b, ⟨lockValue, s.markerTtl.nanos + 1⟩)]⟩
  have answers := apart.second_eq other held s.markerTtl.nanos (.markProcessed "") .tryLock
  rw [serve_tryLock, serve_tryLock] at answers
  have stands : ((held.purge s.markerTtl.nanos).find? (s.lockKey b)).isSome = true := by
    simp [held, Store.Memory.purge, Store.Memory.find?]
  have gone : (Visit.serve s ⟨0, none, a, .markProcessed ""⟩ held).2 =
      (held.purge 0).insert (s.lockKey b) ⟨"", 0 + s.markerTtl.nanos⟩ := by
    rw [← same]
    rfl
  rw [gone, Store.Memory.purge_insert, if_neg (by simp), if_pos stands] at answers
  simp at answers

/-- A lock that is kept where a result stood takes the result with it when it is removed. -/
theorem not_apart_of_lock (same : s.markerKey b = s.lockKey a) (other : a ≠ b) :
    ¬ s.Apart a b := by
  intro apart
  let marked : Store.Memory := ⟨[(s.markerKey b, ⟨"", 1⟩)]⟩
  have answers := apart.second_eq other marked 0 .releaseLock .isProcessed
  have gone : (Visit.serve s ⟨0, none, a, .releaseLock⟩ marked).2 =
      (marked.purge 0).erase (s.markerKey b) := by
    rw [same]
    rfl
  rw [gone] at answers
  change Reply.marked ((((marked.purge 0).erase (s.markerKey b)).purge 0).find? _).isSome =
    Reply.marked (((marked.purge 0).find? _).isSome) at answers
  rw [Store.Memory.purge_erase, Store.Memory.find?_erase, if_pos rfl] at answers
  simp [marked, Store.Memory.purge, Store.Memory.find?] at answers

/-- The keys of each family tell ids apart, and a marker is kept where a lock is just for the id that
begins with `lock:` before the other. Two ids are apart unless they are the same or such a pair. -/
theorem ids_apart_iff (s : Idempotency) (a b : CorrelationId) :
    Function.Injective s.markerKey ∧ Function.Injective s.lockKey ∧
      (s.markerKey a = s.lockKey b ↔ a.text = "lock:" ++ b.text) ∧
      (s.Apart a b ↔ a ≠ b ∧ a.text ≠ "lock:" ++ b.text ∧ b.text ≠ "lock:" ++ a.text) := by
  refine ⟨s.markerKey_injective, s.lockKey_injective, s.markerKey_eq_lockKey_iff a b, ?_, ?_⟩
  · intro apart
    have other : a ≠ b := by
      rintro rfl
      have answers := apart {} [⟨0, none, a, .isProcessed⟩] (List.pairwise_singleton ..)
      simp [replies] at answers
    refine ⟨other, fun same => ?_, fun same => ?_⟩
    · exact not_apart_of_marker ((s.markerKey_eq_lockKey_iff a b).2 same) other apart
    · exact not_apart_of_lock ((s.markerKey_eq_lockKey_iff b a).2 same) other apart
  · rintro ⟨other, first, second⟩
    exact apart_of_disjoint fun key ha => disjoint_of other first second ha

/-- The id whose marker is kept where the lock of the greeting is. -/
def lockOfGreeting : CorrelationId where
  text := "lock:42"
  trim_text := by decide +kernel
  ne_empty := by decide

/-- The lock of one id is taken for the result of another. -/
theorem ids_not_all_apart :
    ¬ ∀ (s : Idempotency) (a b : CorrelationId), a ≠ b →
      s.Apart a b ∧ s.markerKey a ≠ s.lockKey b := by
  intro all
  obtain ⟨apart, -⟩ := all {} .greeting lockOfGreeting (by decide)
  have answers := apart {} [⟨0, none, .greeting, .tryLock⟩, ⟨0, none, lockOfGreeting, .isProcessed⟩]
    (by simp)
  exact absurd answers (by decide +kernel)

end Idempotency
end ReplyPipeline
