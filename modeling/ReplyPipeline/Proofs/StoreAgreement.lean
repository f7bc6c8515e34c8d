import ReplyPipeline.Proofs.Characters
import ReplyPipeline.Proofs.Entries
import ReplyPipeline.Store.Remote

/-!
# The store in memory and a store on a server

Calls are made one after another, at moments that do not go back. What they should be answered
depends on nothing but what was written last under each key, and until when it may be seen. The
store in memory answers so (`Memory.find?_purge_after`), whether or not it removes what has expired
(`Memory.find?_lazilyAfter`); and so does a store on a server that does what is documented of its
commands (`Server.Documented.sees_after`). One can therefore stand in for the other
(`Server.Documented.memory_agrees`), but for times to live that a command cannot say: these are cut
short on the way to the server (`Server.stores_not_agreeing_for_every_ttl`).
-/
namespace ReplyPipeline.Store

/-- Calls, the latest first, and the moments at which they were made. -/
abbrev Past := List (Moment × Call)

def Entry.isFresh (now : Moment) (e : Entry) : Bool := now < e.expiresAt

/-- How long what a call writes may be seen. -/
def Call.ttl? : Call → Option Span
  | .setIfAbsent _ _ ttl => some ttl
  | .set _ _ ttl => some ttl
  | _ => none

/-- What was written last under a key and has not been deleted since. -/
def lastWrite (key : String) : Past → Option Entry
  | [] => none
  | (t, .set k value ttl) :: past =>
    if key = k then some ⟨value, t + ttl.nanos⟩ else lastWrite key past
  | (t, .setIfAbsent k value ttl) :: past =>
    if key = k ∧ (lastWrite key past).filter (Entry.isFresh t) = none then
      some ⟨value, t + ttl.nanos⟩
    else lastWrite key past
  | (_, .delete k) :: past => if key = k then none else lastWrite key past
  | (_, .contains _) :: past => lastWrite key past
  | (_, .get _) :: past => lastWrite key past
  | (_, .ping) :: past => lastWrite key past

section Taking

variable {past : Past} {t : Moment} {key k value : String} {ttl : Span}

theorem lastWrite_taken (free : (lastWrite k past).filter (Entry.isFresh t) = none) :
    lastWrite key ((t, .setIfAbsent k value ttl) :: past) =
      if key = k then some ⟨value, t + ttl.nanos⟩ else lastWrite key past := by
  rw [lastWrite]
  by_cases same : key = k
  · rw [if_pos same, if_pos ⟨same, same ▸ free⟩]
  · rw [if_neg same, if_neg fun h => same h.1]

theorem lastWrite_refused (held : (lastWrite k past).filter (Entry.isFresh t) ≠ none) :
    lastWrite key ((t, .setIfAbsent k value ttl) :: past) = lastWrite key past := by
  rw [lastWrite, if_neg]
  rintro ⟨rfl, free⟩
  exact held free

end Taking

/-- The value that was written last under a key, unless it has expired. -/
def valueAt (past : Past) (now : Moment) (key : String) : Option String :=
  ((lastWrite key past).filter (Entry.isFresh now)).map Entry.value

/-- What a call should be answered. -/
def plainAnswer (past : Past) (now : Moment) : (c : Call) → c.Answer
  | .setIfAbsent key _ _ => (valueAt past now key).isNone
  | .set .. => ()
  | .contains key => (valueAt past now key).isSome
  | .get key => valueAt past now key
  | .delete _ => ()
  | .ping => ()

/-- The calls were made in this order, and all by now. -/
def InOrder (now : Moment) (past : Past) : Prop :=
  (now :: past.map Prod.fst).Pairwise fun later earlier => earlier ≤ later

theorem InOrder.of_cons {now t : Moment} {c : Call} {past : Past}
    (h : InOrder now ((t, c) :: past)) : t ≤ now ∧ InOrder t past := by
  obtain ⟨latest, earlier⟩ := List.pairwise_cons.1 h
  exact ⟨latest t List.mem_cons_self, earlier⟩

theorem InOrder.later {now later : Moment} {past : Past} (h : InOrder now past) (hn : now ≤ later) :
    InOrder later past := by
  obtain ⟨latest, earlier⟩ := List.pairwise_cons.1 h
  exact List.pairwise_cons.2 ⟨fun t ht => Nat.le_trans (latest t ht) hn, earlier⟩

namespace Memory

variable {m : Memory} {past : Past} {now : Moment} {key : String}

def after : Past → Memory
  | [] => {}
  | (t, c) :: past => ((after past).perform t c).2

/-- A store that removes nothing but what it is told to, and passes over what has expired. -/
def performLazily (m : Memory) (now : Moment) : (c : Call) → c.Answer × Memory
  | .setIfAbsent key value ttl =>
    if ((m.find? key).filter (Entry.isFresh now)).isSome then (false, m)
    else (true, m.insert key ⟨value, now + ttl.nanos⟩)
  | .set key value ttl => ((), m.insert key ⟨value, now + ttl.nanos⟩)
  | .contains key => (((m.find? key).filter (Entry.isFresh now)).isSome, m)
  | .get key => (((m.find? key).filter (Entry.isFresh now)).map Entry.value, m)
  | .delete key => ((), m.erase key)
  | .ping => ((), m)

def lazilyAfter : Past → Memory
  | [] => {}
  | (t, c) :: past => ((lazilyAfter past).performLazily t c).2

theorem find?_purge_insert (m : Memory) (k : String) (e : Entry) :
    ((m.insert k e).purge now).find? key =
      if key = k then (some e).filter (Entry.isFresh now) else (m.purge now).find? key := by
  rw [purge_insert]
  by_cases young : now < e.expiresAt
  · rw [if_pos young, find?_insert, Option.filter_some_pos (by simpa [Entry.isFresh] using young)]
  · rw [if_neg young, find?_erase, Option.filter_some_neg (by simpa [Entry.isFresh] using young)]

/-- The store holds what was written last under each key, as long as it has not expired. -/
theorem find?_purge_after (ordered : InOrder now past) :
    ((after past).purge now).find? key = (lastWrite key past).filter (Entry.isFresh now) := by
  induction past generalizing now key with
  | nil => rfl
  | cons p past ih =>
    obtain ⟨t, c⟩ := p
    obtain ⟨earlier, before⟩ := ordered.of_cons
    -- What the call removed when it was made would have been removed by now anyway.
    have kept (key : String) : (((after past).purge t).purge now).find? key =
        (lastWrite key past).filter (Entry.isFresh now) := by
      rw [purge_purge _ earlier]
      exact ih (before.later earlier)
    cases c with
    | setIfAbsent k value ttl =>
      simp only [after, perform]
      by_cases free : (lastWrite k past).filter (Entry.isFresh t) = none
      · rw [if_neg (by rw [ih before, free]; exact Bool.false_ne_true), find?_purge_insert, kept,
          lastWrite_taken free]
        split <;> rfl
      · rw [if_pos (by rw [ih before]; exact Option.isSome_iff_ne_none.2 free), kept,
          lastWrite_refused free]
    | set k value ttl =>
      simp only [after, perform, lastWrite]
      rw [find?_purge_insert, kept]
      split <;> rfl
    | contains k => exact kept key
    | get k => exact kept key
    | delete k =>
      simp only [after, perform, lastWrite]
      rw [purge_erase, find?_erase, kept]
      split <;> rfl
    | ping => exact ih (before.later earlier)

/-- Where nothing is removed before its time, what was written last stays. -/
theorem find?_lazilyAfter (past : Past) : (lazilyAfter past).find? key = lastWrite key past := by
  induction past generalizing key with
  | nil => rfl
  | cons p past ih =>
    obtain ⟨t, c⟩ := p
    cases c with
    | setIfAbsent k value ttl =>
      simp only [lazilyAfter, performLazily, ih]
      by_cases free : (lastWrite k past).filter (Entry.isFresh t) = none
      · rw [if_neg (by rw [free]; exact Bool.false_ne_true), find?_insert, ih, lastWrite_taken free]
      · rw [if_pos (Option.isSome_iff_ne_none.2 free), ih, lastWrite_refused free]
    | set k value ttl =>
      simp only [lazilyAfter, performLazily, lastWrite]
      rw [find?_insert, ih]
    | contains k => exact ih
    | get k => exact ih
    | delete k =>
      simp only [lazilyAfter, performLazily, lastWrite]
      rw [find?_erase, ih]
    | ping => exact ih

theorem peek_after (ordered : InOrder now past) (key : String) :
    (after past).peek now key = valueAt past now key :=
  congrArg (Option.map Entry.value) (find?_purge_after ordered)

theorem perform_after (ordered : InOrder now past) (c : Call) :
    ((after past).perform now c).1 = plainAnswer past now c := by
  cases c with
  | setIfAbsent k value ttl =>
    simp only [perform, plainAnswer, ← peek_after ordered k, peek]
    cases ((after past).purge now).find? k <;> rfl
  | set k value ttl => rfl
  | contains k =>
    refine Eq.trans ?_ (congrArg Option.isSome (peek_after ordered k))
    exact Option.isSome_map.symm
  | get k => exact peek_after ordered k
  | delete k => rfl
  | ping => rfl

theorem performLazily_lazilyAfter (past : Past) (now : Moment) (c : Call) :
    ((lazilyAfter past).performLazily now c).1 = plainAnswer past now c := by
  have seen (k : String) :
      (((lazilyAfter past).find? k).filter (Entry.isFresh now)).map Entry.value =
        valueAt past now k := by
    rw [find?_lazilyAfter, valueAt]
  cases c with
  | setIfAbsent k value ttl =>
    simp only [performLazily, plainAnswer, ← seen k]
    cases ((lazilyAfter past).find? k).filter (Entry.isFresh now) <;> rfl
  | set k value ttl => rfl
  | contains k =>
    refine Eq.trans ?_ (congrArg Option.isSome (seen k))
    exact Option.isSome_map.symm
  | get k => exact seen k
  | delete k => rfl
  | ping => rfl

/-- What the two have not forgotten is the same, in the same order. -/
theorem purge_lazilyAfter (ordered : InOrder now past) :
    (lazilyAfter past).purge now = (after past).purge now := by
  induction past generalizing now with
  | nil => rfl
  | cons p past ih =>
    obtain ⟨t, c⟩ := p
    obtain ⟨earlier, before⟩ := ordered.of_cons
    have kept : (lazilyAfter past).purge now = ((after past).purge t).purge now := by
      rw [purge_purge _ earlier, ih (before.later earlier)]
    cases c with
    | setIfAbsent k value ttl =>
      simp only [after, perform, lazilyAfter, performLazily, find?_lazilyAfter,
        find?_purge_after before]
      split
      · exact kept
      · rw [purge_insert, purge_insert, kept]
    | set k value ttl =>
      simp only [after, perform, lazilyAfter, performLazily]
      rw [purge_insert, purge_insert, kept]
    | contains k => exact kept
    | get k => exact kept
    | delete k =>
      simp only [after, perform, lazilyAfter, performLazily]
      rw [purge_erase, purge_erase, kept]
    | ping => exact ih (before.later earlier)

/-- No two entries stand under one key. -/
def Distinct (m : Memory) : Prop := (m.entries.map Prod.fst).Nodup

theorem Distinct.filter (h : m.Distinct) (p : String × Entry → Bool) :
    Distinct ⟨m.entries.filter p⟩ :=
  h.sublist (List.filter_sublist.map Prod.fst)

theorem Distinct.insert (h : m.Distinct) (k : String) (e : Entry) : (m.insert k e).Distinct := by
  refine List.nodup_cons.2 ⟨?_, h.filter _⟩
  intro there
  obtain ⟨⟨j, e'⟩, he, same⟩ := List.mem_map.1 there
  have other := (List.mem_filter.1 he).2
  exact absurd same (by simpa using other)

theorem Distinct.perform (h : m.Distinct) (now : Moment) (c : Call) :
    (m.perform now c).2.Distinct := by
  have kept : (m.purge now).Distinct := h.filter _
  cases c with
  | setIfAbsent k value ttl =>
    simp only [Memory.perform]
    split
    · exact kept
    · exact kept.insert k _
  | set k value ttl => exact kept.insert k _
  | contains k => exact kept
  | get k => exact kept
  | delete k => exact kept.filter _
  | ping => exact h

theorem distinct_after (past : Past) : (after past).Distinct := by
  induction past with
  | nil => exact List.nodup_nil
  | cons p past ih => exact ih.perform p.1 p.2

theorem Distinct.find?_eq_some_iff (h : m.Distinct) {e : Entry} :
    m.find? key = some e ↔ (key, e) ∈ m.entries := by
  constructor
  · intro found
    obtain ⟨as, bs, entries, -⟩ := List.lookup_eq_some_iff.1 found
    rw [entries]
    exact List.mem_append_right as List.mem_cons_self
  · intro there
    obtain ⟨as, bs, entries⟩ := List.append_of_mem there
    refine List.lookup_eq_some_iff.2 ⟨as, bs, entries, ?_⟩
    intro p hp
    unfold Distinct at h
    rw [entries, List.map_append, List.nodup_append] at h
    have other := h.2.2 p.1 (List.mem_map_of_mem hp) key (by simp)
    simpa using Ne.symm other

theorem mem_live_after (ordered : InOrder now past) {value : String} :
    (key, value) ∈ (after past).live now ↔ valueAt past now key = some value := by
  have kept : ((after past).purge now).Distinct := (distinct_after past).filter _
  rw [← peek_after ordered, peek, Option.map_eq_some_iff, live, List.mem_map]
  constructor
  · rintro ⟨⟨k, e⟩, there, same⟩
    cases same
    exact ⟨e, kept.find?_eq_some_iff.2 there, rfl⟩
  · rintro ⟨e, found, rfl⟩
    exact ⟨(key, e), kept.find?_eq_some_iff.1 found, rfl⟩

end Memory

/-- A server to which commands are sent, one after another. -/
structure Server where
  State : Type
  serve : State → Moment → List String → Resp.Reply × State

namespace Server

def after (server : Server) (start : server.State) : Past → server.State
  | [] => start
  | (t, c) :: past => (server.serve (server.after start past) t (Resp.words c)).2

/-- What is documented of a server, of which `sees` says what can be read from it without changing
it: under each key a value, at a moment and as long as no other command is sent. -/
structure Documented (server : Server)
    (sees : server.State → Moment → String → Option String) : Prop where
  set (st now) (key value) {ms : Nat} : 0 < ms →
    ∃ st', server.serve st now ["SET", key, value, "PX", Decimal.showNat ms] =
        (.text (Text.Utf8.encode "OK".toList), st') ∧
      ∀ later ≥ now, ∀ k, sees st' later k =
        if k = key then if later < now + ms * 10 ^ 6 then some value else none else sees st later k
  setAbsent {st now key} (value) {ms : Nat} : 0 < ms → sees st now key = none →
    ∃ st', server.serve st now ["SET", key, value, "PX", Decimal.showNat ms, "NX"] =
        (.text (Text.Utf8.encode "OK".toList), st') ∧
      ∀ later ≥ now, ∀ k, sees st' later k =
        if k = key then if later < now + ms * 10 ^ 6 then some value else none else sees st later k
  setPresent {st now key} (value) {ms : Nat} : 0 < ms → sees st now key ≠ none →
    ∃ st', server.serve st now ["SET", key, value, "PX", Decimal.showNat ms, "NX"] = (.nil, st') ∧
      ∀ later ≥ now, ∀ k, sees st' later k = sees st later k
  contains (st now key) :
    ∃ st', server.serve st now ["EXISTS", key] =
        (.integer (if (sees st now key).isSome then 1 else 0), st') ∧
      ∀ later ≥ now, ∀ k, sees st' later k = sees st later k
  get (st now key) :
    ∃ st', server.serve st now ["GET", key] =
        ((sees st now key).elim .nil fun value => .text (Text.Utf8.encode value.toList), st') ∧
      ∀ later ≥ now, ∀ k, sees st' later k = sees st later k
  del (st now key) :
    ∃ st', server.serve st now ["DEL", key] =
        (.integer (if (sees st now key).isSome then 1 else 0), st') ∧
      ∀ later ≥ now, ∀ k, sees st' later k = if k = key then none else sees st later k
  ping (st now) :
    ∃ st', server.serve st now ["PING"] = (.text (Text.Utf8.encode "PONG".toList), st') ∧
      ∀ later ≥ now, ∀ k, sees st' later k = sees st later k

/-- What can be read from a table. -/
def tableSees (st : String → Option Entry) (now : Moment) (key : String) : Option String :=
  ((st key).filter (Entry.isFresh now)).map Entry.value

/-- A server that keeps a table and passes over what has expired. -/
def table : Server where
  State := String → Option Entry
  serve st now words :=
    let put (key value ms : String) :=
      Function.update st key (some ⟨value, now + Nat.ofDigitChars 10 ms.toList 0 * 10 ^ 6⟩)
    let done := Resp.Reply.text (Text.Utf8.encode "OK".toList)
    match words with
    | ["SET", key, value, "PX", ms] => (done, put key value ms)
    | ["SET", key, value, "PX", ms, "NX"] =>
      if (tableSees st now key).isSome then (.nil, st) else (done, put key value ms)
    | ["EXISTS", key] => (.integer (if (tableSees st now key).isSome then 1 else 0), st)
    | ["GET", key] =>
      ((tableSees st now key).elim .nil fun value => .text (Text.Utf8.encode value.toList), st)
    | ["DEL", key] =>
      (.integer (if (tableSees st now key).isSome then 1 else 0), Function.update st key none)
    | ["PING"] => (.text (Text.Utf8.encode "PONG".toList), st)
    | _ => (.error, st)

theorem tableSees_put (st : String → Option Entry) (now later : Moment) (key value : String)
    (ms : Nat) (k : String) :
    tableSees (Function.update st key (some ⟨value,
      now + Nat.ofDigitChars 10 (Decimal.showNat ms).toList 0 * 10 ^ 6⟩)) later k =
      if k = key then if later < now + ms * 10 ^ 6 then some value else none
      else tableSees st later k := by
  have read : Nat.ofDigitChars 10 (Decimal.showNat ms).toList 0 = ms := by
    rw [Decimal.showNat, String.toList_ofList, Decimal.natText, Nat.ofDigitChars_ten_toDigits]
  rw [read, tableSees, tableSees, Function.update_apply]
  by_cases same : k = key
  · rw [if_pos same, if_pos same, Option.filter_some, Entry.isFresh]
    by_cases young : later < now + ms * 10 ^ 6 <;> simp [young]
  · rw [if_neg same, if_neg same]

theorem tableSees_remove (st : String → Option Entry) (later : Moment) (key k : String) :
    tableSees (Function.update st key none) later k =
      if k = key then none else tableSees st later k := by
  rw [tableSees, tableSees, Function.update_apply]
  split <;> rfl

theorem documented_table : table.Documented tableSees := by
  constructor
  case set =>
    intro st now key value ms _
    exact ⟨_, rfl, fun later _ k => tableSees_put st now later key value ms k⟩
  case setAbsent =>
    intro st now key value ms _ free
    refine ⟨_, ?_, fun later _ k => tableSees_put st now later key value ms k⟩
    exact if_neg (by rw [free]; exact Bool.false_ne_true)
  case setPresent =>
    intro st now key value ms _ held
    refine ⟨st, ?_, fun later _ k => rfl⟩
    exact if_pos (Option.isSome_iff_ne_none.2 held)
  case contains =>
    intro st now key
    exact ⟨st, rfl, fun later _ k => rfl⟩
  case get =>
    intro st now key
    exact ⟨st, rfl, fun later _ k => rfl⟩
  case del =>
    intro st now key
    exact ⟨_, rfl, fun later _ k => tableSees_remove st later key k⟩
  case ping =>
    intro st now
    exact ⟨st, rfl, fun later _ k => rfl⟩

/-- The clock counts 2 ^ 63 seconds. -/
def clockEnd : Moment := 2 ^ 63 * 10 ^ 9

/-- A time to live from `t` on is a whole number of milliseconds and not none, and the clock can
hold the moment at which it is over. -/
structure Expires (t : Moment) (ttl : Span) : Prop where
  whole : ∃ ms, 0 < ms ∧ ttl.nanos = ms * 10 ^ 6
  held : t + ttl.nanos < clockEnd

/-- A command says a time to live in milliseconds, with 64 bits. If there are more, all is over by
`horizon`, before the most that it can say have passed. -/
def Carried (horizon t : Moment) (ttl : Span) : Prop :=
  ttl.nanos < 2 ^ 64 * 10 ^ 6 ∨ horizon < t + (2 ^ 64 - 1) * 10 ^ 6

theorem Carried.lt_iff {horizon t now : Moment} {ttl : Span} (h : Carried horizon t ttl)
    (expires : Expires t ttl) (hn : now ≤ horizon) :
    now < t + Resp.ttlMillis ttl * 10 ^ 6 ↔ now < t + ttl.nanos := by
  obtain ⟨ms, positive, nanos⟩ := expires.whole
  have whole : ttl.wholeMillis = ms := by
    rw [Span.wholeMillis, nanos, Nat.mul_div_cancel _ (by decide)]
  rw [Carried, nanos] at h
  rw [Resp.ttlMillis, whole, nanos]
  by_cases fits : ms < 2 ^ 64
  · rw [Nat.min_eq_right (Nat.le_sub_one_of_lt fits), Nat.max_eq_right positive]
  · have late : ¬ ms * 10 ^ 6 < 2 ^ 64 * 10 ^ 6 := fun h => fits (Nat.lt_of_mul_lt_mul_right h)
    have early := Nat.lt_of_le_of_lt hn (h.resolve_left late)
    have longer : 2 ^ 64 - 1 ≤ ms := by omega
    rw [Nat.min_eq_left longer, Nat.max_eq_right (by decide)]
    exact iff_of_true early
      (Nat.lt_of_lt_of_le early (Nat.add_le_add_left (Nat.mul_le_mul_right _ longer) t))

/-- A value that expires as late as a command says is that of the entry that the call wrote. -/
theorem Carried.value {horizon t now : Moment} {ttl : Span} (h : Carried horizon t ttl)
    (expires : Expires t ttl) (hn : now ≤ horizon) (value : String) :
    (if now < t + Resp.ttlMillis ttl * 10 ^ 6 then some value else none) =
      ((some (⟨value, t + ttl.nanos⟩ : Entry)).filter (Entry.isFresh now)).map Entry.value := by
  by_cases young : now < t + ttl.nanos
  · rw [if_pos ((h.lt_iff expires hn).2 young),
      Option.filter_some_pos (by simpa [Entry.isFresh] using young)]
    rfl
  · rw [if_neg (mt (h.lt_iff expires hn).1 young),
      Option.filter_some_neg (by simpa [Entry.isFresh] using young)]
    rfl

theorem ttlMillis_pos (ttl : Span) : 0 < Resp.ttlMillis ttl := Nat.le_max_left 1 _

theorem text?_encode (s : String) :
    (Resp.Reply.text (Text.Utf8.encode s.toList)).text? = some s := by
  rw [Resp.Reply.text?, Text.Utf8.decode?_encode, String.ofList_toList]

section Documented

variable {server : Server} {sees : server.State → Moment → String → Option String}
  {start : server.State} {past : Past} {now horizon : Moment}

theorem Documented.sees_after (documented : server.Documented sees)
    (blank : ∀ t key, sees start t key = none) (ordered : InOrder now past) (hn : now ≤ horizon)
    (expires : ∀ p ∈ past, ∀ ttl ∈ p.2.ttl?, Expires p.1 ttl)
    (carried : ∀ p ∈ past, ∀ ttl ∈ p.2.ttl?, Carried horizon p.1 ttl) (key : String) :
    sees (server.after start past) now key = valueAt past now key := by
  induction past generalizing now key with
  | nil => exact blank now key
  | cons p past ih =>
    obtain ⟨t, c⟩ := p
    obtain ⟨earlier, before⟩ := ordered.of_cons
    obtain ⟨ends, others⟩ := List.forall_mem_cons.1 expires
    obtain ⟨here, rest⟩ := List.forall_mem_cons.1 carried
    -- The calls before it, seen from now and from when it was made, when it decided what to do.
    have kept (key : String) : sees (server.after start past) now key = valueAt past now key :=
      ih (before.later earlier) hn others rest key
    have since (key : String) : sees (server.after start past) t key = valueAt past t key :=
      ih before (Nat.le_trans earlier hn) others rest key
    have written (ttl : Span) (h : ttl ∈ c.ttl?) := (here ttl h).value (ends ttl h) hn
    cases c with
    | setIfAbsent k value ttl =>
      have old := since k
      by_cases free : sees (server.after start past) t k = none
      · obtain ⟨st', served, seen⟩ := documented.setAbsent value (ttlMillis_pos ttl) free
        rw [free] at old
        simp only [after, Resp.words]
        rw [served, seen now earlier key, written ttl rfl, kept, valueAt, valueAt,
          lastWrite_taken (Option.map_eq_none_iff.1 old.symm)]
        split <;> rfl
      · obtain ⟨st', served, seen⟩ := documented.setPresent value (ttlMillis_pos ttl) free
        simp only [after, Resp.words]
        rw [served, seen now earlier key, kept, valueAt, valueAt, lastWrite_refused]
        intro gone
        apply free
        rw [old, valueAt, gone]
        rfl
    | set k value ttl =>
      obtain ⟨st', served, seen⟩ :=
        documented.set (server.after start past) t k value (ttlMillis_pos ttl)
      simp only [after, Resp.words]
      rw [served, seen now earlier key, written ttl rfl, kept, valueAt, valueAt, lastWrite]
      split <;> rfl
    | contains k =>
      obtain ⟨st', served, seen⟩ := documented.contains (server.after start past) t k
      simp only [after, Resp.words]
      rw [served, seen now earlier key, kept]
      rfl
    | get k =>
      obtain ⟨st', served, seen⟩ := documented.get (server.after start past) t k
      simp only [after, Resp.words]
      rw [served, seen now earlier key, kept]
      rfl
    | delete k =>
      obtain ⟨st', served, seen⟩ := documented.del (server.after start past) t k
      simp only [after, Resp.words]
      rw [served, seen now earlier key, kept, valueAt, valueAt, lastWrite]
      split <;> rfl
    | ping =>
      obtain ⟨st', served, seen⟩ := documented.ping (server.after start past) t
      simp only [after, Resp.words]
      rw [served, seen now earlier key, kept]
      rfl

/-- What a command is replied means what its call should be answered. -/
theorem Documented.answer_of_sees (documented : server.Documented sees) {st : server.State}
    (seen : ∀ key, sees st now key = valueAt past now key) (c : Call) :
    Resp.answer (server.serve st now (Resp.words c)).1 c = .ok (plainAnswer past now c) := by
  cases c with
  | setIfAbsent k value ttl =>
    simp only [Resp.words, plainAnswer, ← seen k]
    cases held : sees st now k with
    | none =>
      obtain ⟨st', served, -⟩ := documented.setAbsent value (ttlMillis_pos ttl) held
      rw [served]
      simp only [Resp.answer, text?_encode, Option.isSome_some, if_true]
      rfl
    | some v =>
      have taken : sees st now k ≠ none := by simp [held]
      obtain ⟨st', served, -⟩ := documented.setPresent value (ttlMillis_pos ttl) taken
      rw [served]
      rfl
  | set k value ttl =>
    obtain ⟨st', served, -⟩ := documented.set st now k value (ttlMillis_pos ttl)
    simp only [Resp.words]
    rw [served]
    rfl
  | contains k =>
    obtain ⟨st', served, -⟩ := documented.contains st now k
    simp only [Resp.words, plainAnswer, ← seen k]
    rw [served]
    cases sees st now k <;> rfl
  | get k =>
    obtain ⟨st', served, -⟩ := documented.get st now k
    simp only [Resp.words, plainAnswer, ← seen k]
    rw [served]
    cases sees st now k with
    | none => rfl
    | some v => simp only [Option.elim_some, Resp.answer, text?_encode]
  | delete k =>
    obtain ⟨st', served, -⟩ := documented.del st now k
    simp only [Resp.words]
    rw [served]
    rfl
  | ping =>
    obtain ⟨st', served, -⟩ := documented.ping st now
    simp only [Resp.words]
    rw [served]
    simp only [Resp.answer, text?_encode, Option.isSome_some, if_true]
    rfl

theorem answer_malformed (c : Call) : Resp.answer .malformed c = .error Resp.unexpected := by
  cases c <;> rfl

/-- A session that reaches its server makes of the octets what their reply means. -/
theorem call_of_reply {session : Remote.Session} {octets : Bytes} {reply : Resp.Reply} {c : Call}
    {a : c.Answer} (reached : session.unreachable = false) (spelled : .ofBytes octets = reply)
    (answered : Resp.answer reply c = .ok a) (limit : Option Span) :
    (session.call octets c limit).1 = .ok a := by
  subst spelled
  have nonempty : octets.isEmpty = false := by
    cases octets with
    | nil =>
      have silent : Resp.answer .malformed c = .ok a := answered
      rw [answer_malformed] at silent
      cases silent
    | cons b bs => rfl
  simp only [Remote.Session.call, reached, nonempty]
  exact answered

/-- After any calls, in whatever order and at whatever moments, with times to live that are whole
numbers of milliseconds and that the clock can hold, the store in memory answers the next one as the
last writes and their expiry say. So does a session with a server that does what is documented, if
the commands can carry the times to live. The store in memory shows what was written last under each
key and has not expired, once each; and nothing of this would be otherwise if what has expired were
never removed. -/
theorem Documented.memory_agrees (documented : server.Documented sees)
    (blank : ∀ t key, sees start t key = none) (ordered : InOrder now past) (c : Call)
    (expires : ∀ p ∈ (now, c) :: past, ∀ ttl ∈ p.2.ttl?, Expires p.1 ttl) :
    ((Memory.after past).perform now c).1 = plainAnswer past now c ∧
    ((∀ p ∈ past, ∀ ttl ∈ p.2.ttl?, Carried now p.1 ttl) →
      ∀ (session : Remote.Session) octets limit, session.unreachable = false →
        .ofBytes octets = (server.serve (server.after start past) now (Resp.words c)).1 →
        (session.call octets c limit).1 = .ok ((Memory.after past).perform now c).1) ∧
    (∀ key, (Memory.after past).peek now key = valueAt past now key ∧
      ∀ value, (key, value) ∈ (Memory.after past).live now ↔ valueAt past now key = some value) ∧
    (((Memory.after past).live now).map Prod.fst).Nodup ∧
    ((Memory.lazilyAfter past).performLazily now c).1 = ((Memory.after past).perform now c).1 ∧
    (∀ key, (Memory.lazilyAfter past).peek now key = (Memory.after past).peek now key) ∧
    (Memory.lazilyAfter past).live now = (Memory.after past).live now := by
  have memory := Memory.perform_after ordered c
  have kept := Memory.purge_lazilyAfter ordered
  refine ⟨memory, ?_, ?_, ?_, ?_, ?_, ?_⟩
  · intro carried session octets limit reached spelled
    rw [memory]
    apply call_of_reply reached spelled
    apply documented.answer_of_sees
    exact documented.sees_after blank ordered (Nat.le_refl now)
      (List.forall_mem_cons.1 expires).2 carried
  · intro key
    exact ⟨Memory.peek_after ordered key, fun value => Memory.mem_live_after ordered⟩
  · rw [Memory.live, List.map_map]
    exact (Memory.distinct_after past).filter _
  · rw [memory]
    exact Memory.performLazily_lazilyAfter past now c
  · intro key
    rw [Memory.peek, Memory.peek, kept]
  · rw [Memory.live, Memory.live, kept]

/-- An entry is overwritten by one that lives less long, and the lock is taken at the moment at
which that one expires. -/
theorem memory_agrees_at_expiry :
    let past : Past :=
      [(10 ^ 6, .set "lock" "b" (.millis 2)), (0, .setIfAbsent "lock" "a" (.millis 5))]
    let c : Call := .setIfAbsent "lock" "c" (.millis 1)
    ((Memory.after past).perform (3 * 10 ^ 6) c).1 = true ∧
      (Remote.Session.call ⟨{}, false, false⟩ (Text.Utf8.encode "+OK\r\n".toList) c none).1 =
        .ok true ∧
      (Memory.after past).peek (3 * 10 ^ 6) "lock" = none := by
  intro past c
  have ordered : InOrder (3 * 10 ^ 6) past := by simp [InOrder, past]
  have expires : ∀ p ∈ (3 * 10 ^ 6, c) :: past, ∀ ttl ∈ p.2.ttl?, Expires p.1 ttl := by
    simp only [List.forall_mem_cons, past, c, Call.ttl?, Option.mem_some_iff, forall_eq']
    exact ⟨⟨⟨1, by decide, rfl⟩, by decide⟩, ⟨⟨2, by decide, rfl⟩, by decide⟩,
      ⟨⟨5, by decide, rfl⟩, by decide⟩, nofun⟩
  have carried : ∀ p ∈ past, ∀ ttl ∈ p.2.ttl?, Carried (3 * 10 ^ 6) p.1 ttl := by
    simp only [List.forall_mem_cons, past, Call.ttl?, Option.mem_some_iff, forall_eq']
    exact ⟨.inl (by decide), .inl (by decide), nofun⟩
  obtain ⟨-, remote, shown, -⟩ := documented_table.memory_agrees
    (fun _ _ => rfl : ∀ t key, tableSees (fun _ => none) t key = none) ordered c expires
  have free : ((Memory.after past).perform (3 * 10 ^ 6) c).1 = true := rfl
  refine ⟨free, ?_, (shown "lock").1⟩
  rw [← free]
  exact remote carried _ _ none rfl rfl

/-- One millisecond more than a command can say. -/
def overlong : Span := ⟨2 ^ 64 * 10 ^ 6, by decide⟩

/-- The server has forgotten a value that was to live so long when the store in memory still has
it. -/
theorem stores_not_agreeing_for_every_ttl :
    ¬ ∀ (server : Server) (sees : server.State → Moment → String → Option String)
        (start : server.State) (past : Past) (now : Moment) (c : Call),
      server.Documented sees → (∀ t key, sees start t key = none) → InOrder now past →
      (∀ p ∈ (now, c) :: past, ∀ ttl ∈ p.2.ttl?, Expires p.1 ttl) →
      ∀ (session : Remote.Session) octets limit, session.unreachable = false →
        .ofBytes octets = (server.serve (server.after start past) now (Resp.words c)).1 →
        (session.call octets c limit).1 = .ok ((Memory.after past).perform now c).1 := by
  intro all
  let past : Past := [(0, .set "lock" "a" overlong)]
  let now : Moment := (2 ^ 64 - 1) * 10 ^ 6
  let c : Call := .contains "lock"
  have ordered : InOrder now past := by simp [InOrder, past]
  have expires : ∀ p ∈ (now, c) :: past, ∀ ttl ∈ p.2.ttl?, Expires p.1 ttl := by
    simp only [List.forall_mem_cons, past, c, Call.ttl?, Option.mem_some_iff, forall_eq']
    exact ⟨nofun, ⟨⟨2 ^ 64, by decide, rfl⟩, by decide⟩, nofun⟩
  have gone : .ofBytes (Text.Utf8.encode ":0\r\n".toList) =
      (table.serve (table.after (fun _ => none) past) now (Resp.words c)).1 := by
    decide +kernel
  have answers := all table tableSees (fun _ => none) past now c documented_table (fun _ _ => rfl)
    ordered expires ⟨{}, false, false⟩ _ none rfl gone
  have absent : (Remote.Session.call ⟨{}, false, false⟩ (Text.Utf8.encode ":0\r\n".toList)
      c none).1 = .ok false := rfl
  have present : ((Memory.after past).perform now c).1 = true := rfl
  rw [absent, present] at answers
  cases answers

end Documented

end Server

end ReplyPipeline.Store
