import ReplyPipeline.Proofs.PublishedTask

/-!
# The fields that decide

A value is an event if it is an object in which five members are of the right type. What an event
says of itself is read from these members; `Event.Gives` says how, for each of them in the same way.
Nothing else in the object can make it malformed or change what the five give
(`Event.decoded_iff_deciding_fields`).
-/
namespace ReplyPipeline

open Json (Mismatch Number Value)

/-- The JSON value that a message id is read from. -/
def MessageId.value : MessageId → Value
  | .number n => .number (.integer n.toInt)
  | .text s => .string s

/-- The JSON value that a message type is read from. -/
def MessageType.value : MessageType → Value
  | .code n => .number (.integer n.toInt)
  | .name s => .string s

namespace Event

/-- A member that is missing or null gives nothing, and one that is the value of something gives
that. Other members give neither. -/
inductive Gives {α : Type} (value : α → Value) : Option Value → Option α → Prop
  | missing : Gives value none none
  | null : Gives value (some .null) none
  | present (a : α) : Gives value (some (value a)) (some a)

def decidingKeys : List String := ["event", "content", "private", "id", "message_type"]

/-- What an event says of itself. -/
structure Core where
  type : Option String
  content : Option String
  isPrivate : Option Bool
  id : Option MessageId
  messageType : Option MessageType
  deriving DecidableEq, Repr

/-- It is what the deciding members of a value give. -/
structure Core.IsReadFrom (c : Core) (v : Value) : Prop where
  type : Gives Value.string (v.get? "event") c.type
  content : Gives Value.string (v.get? "content") c.content
  isPrivate : Gives Value.bool (v.get? "private") c.isPrivate
  id : Gives MessageId.value (v.get? "id") c.id
  messageType : Gives MessageType.value (v.get? "message_type") c.messageType

/-- Each deciding member of a value is of its type. -/
structure WellTyped (v : Value) : Prop where
  type : ∃ type, Gives Value.string (v.get? "event") type
  content : ∃ content, Gives Value.string (v.get? "content") content
  isPrivate : ∃ isPrivate, Gives Value.bool (v.get? "private") isPrivate
  id : ∃ id, Gives MessageId.value (v.get? "id") id
  messageType : ∃ type, Gives MessageType.value (v.get? "message_type") type

theorem wellTyped_iff {v : Value} : WellTyped v ↔ ∃ c : Core, c.IsReadFrom v := by
  constructor
  · rintro ⟨⟨type, ht⟩, ⟨content, hc⟩, ⟨isPrivate, hp⟩, ⟨id, hi⟩, ⟨messageType, hm⟩⟩
    exact ⟨⟨type, content, isPrivate, id, messageType⟩, ht, hc, hp, hi, hm⟩
  · rintro ⟨c, ht, hc, hp, hi, hm⟩
    exact ⟨⟨_, ht⟩, ⟨_, hc⟩, ⟨_, hp⟩, ⟨_, hi⟩, ⟨_, hm⟩⟩

def core (e : Event) : Core := ⟨e.type, e.content, e.isPrivate, e.id, e.messageType⟩

section Fields

variable {α : Type} {members : List (String × Value)} {name : String} {value : α → Value}
  {decode : Value → Except Mismatch α} {o : Option α} {w : Value}

theorem gives_none_iff : Gives value none o ↔ o = none := by
  constructor
  · rintro ⟨⟩
    rfl
  · rintro rfl
    exact .missing

theorem gives_some_iff :
    Gives value (some w) o ↔ w = .null ∧ o = none ∨ ∃ a, w = value a ∧ o = some a := by
  constructor
  · rintro ⟨⟩
    · exact .inl ⟨rfl, rfl⟩
    · exact .inr ⟨_, rfl, rfl⟩
  · rintro (⟨rfl, rfl⟩ | ⟨a, rfl, rfl⟩)
    · exact .null
    · exact .present a

theorem gives_nothing_iff {given : Option Value} :
    Gives value given none ↔ given = none ∨ given = some .null := by
  constructor
  · rintro ⟨⟩
    · exact .inl rfl
    · exact .inr rfl
  · rintro (rfl | rfl)
    · exact .missing
    · exact .null

theorem gives_iff {given : Option Value} {a : α} :
    Gives value given (some a) ↔ given = some (value a) := by
  constructor
  · rintro ⟨⟩
    rfl
  · rintro rfl
    exact .present a

/-- A strict field is what its member gives, if the member decodes to what it is the value of. -/
theorem strictField_eq_ok_iff (some_ : ∀ a, value a ≠ .null)
    (faithful : ∀ w, members.lookup name = some w → ∀ a, decode w = .ok a ↔ w = value a) :
    strictField members name decode = .ok o ↔ Gives value (members.lookup name) o := by
  unfold strictField
  cases found : members.lookup name with
  | none => simp [gives_none_iff, eq_comm]
  | some w =>
    rw [gives_some_iff]
    by_cases null : w = .null
    · subst null
      have other (a : α) : ¬ .null = value a := fun h => some_ a h.symm
      simp [other, eq_comm]
    · have reads := faithful w found
      simp only [null, false_and, false_or, ← reads]
      cases decode w with
      | error m => simp [Except.map]
      | ok b => simp [Except.map, eq_comm]

theorem strictText_eq_ok_iff {s : String} : strictText w = .ok s ↔ w = .string s := by
  cases w <;> simp [strictText]

theorem strictBool_eq_ok_iff {b : Bool} : strictBool w = .ok b ↔ w = .bool b := by
  cases w <;> simp [strictBool]

/-- The numbers that are read as whole numbers of 64 bits with sign. -/
theorem i64?_number_iff {k : Number} (held : k.Readable fun _ => True) {m : Int64} :
    (Value.number k).i64?.map Int64.ofInt = some m ↔ k = .integer m.toInt := by
  cases k with
  | real x => simp [Value.i64?]
  | integer n =>
    have whole := Int64.toInt_ofInt_of_le held.1
    have bound := m.toInt_lt
    unfold Value.i64?
    simp only [Number.integer.injEq]
    split
    next small =>
      simp only [Option.map_some, Option.some.injEq]
      rw [← Int64.toInt_inj, whole small]
    next large =>
      simp only [Option.map_none, reduceCtorEq, false_iff]
      omega

theorem strictId_eq_ok_iff (held : ∀ k, w = .number k → k.Readable fun _ => True)
    {id : MessageId} : strictId w = .ok id ↔ w = id.value := by
  cases w with
  | string s => cases id <;> simp [strictId, MessageId.value]
  | number k =>
    have whole (m : Int64) := i64?_number_iff (held k rfl) (m := m)
    cases id with
    | text s => cases h : (Value.number k).i64? <;> simp [strictId, MessageId.value, h]
    | number m =>
      simp only [MessageId.value, Value.number.injEq, ← whole]
      cases h : (Value.number k).i64? <;> simp [strictId, h]
  | _ => cases id <;> simp [strictId, MessageId.value, Value.i64?]

theorem strictType_eq_ok_iff (held : ∀ k, w = .number k → k.Readable fun _ => True)
    {type : MessageType} : strictType w = .ok type ↔ w = type.value := by
  cases w with
  | string s => cases type <;> simp [strictType, MessageType.value]
  | number k =>
    have whole (m : Int64) := i64?_number_iff (held k rfl) (m := m)
    cases type with
    | name s => cases h : (Value.number k).i64? <;> simp [strictType, MessageType.value, h]
    | code m =>
      simp only [MessageType.value, Value.number.injEq, ← whole]
      cases h : (Value.number k).i64? <;> simp [strictType, h]
  | _ => cases type <;> simp [strictType, MessageType.value, Value.i64?]

end Fields

theorem core_ofMembers (members : List (String × Value)) :
    (ofMembers members).map core = do
      let content ← strictField members "content" strictText
      let type ← strictField members "event" strictText
      let id ← strictField members "id" strictId
      let messageType ← strictField members "message_type" strictType
      let isPrivate ← strictField members "private" strictBool
      return ⟨type, content, isPrivate, id, messageType⟩ := by
  unfold ofMembers
  cases strictField members "content" strictText with
  | error m => rfl
  | ok content =>
  cases strictField members "event" strictText with
  | error m => rfl
  | ok type =>
  cases strictField members "id" strictId with
  | error m => rfl
  | ok id =>
  cases strictField members "message_type" strictType with
  | error m => rfl
  | ok messageType =>
  cases strictField members "private" strictBool with
  | error m => rfl
  | ok isPrivate => rfl

theorem core_eq_ok_iff {members : List (String × Value)} {c : Core}
    (held : ∀ key k, members.lookup key = some (.number k) → k.Readable fun _ => True) :
    (ofMembers members).map core = .ok c ↔ c.IsReadFrom (.object members) := by
  have text (name : String) (o : Option String) :
      strictField members name strictText = .ok o ↔ Gives Value.string (members.lookup name) o :=
    strictField_eq_ok_iff nofun fun _ _ _ => strictText_eq_ok_iff
  have truth (o : Option Bool) :
      strictField members "private" strictBool = .ok o ↔
        Gives Value.bool (members.lookup "private") o :=
    strictField_eq_ok_iff nofun fun _ _ _ => strictBool_eq_ok_iff
  have id (o : Option MessageId) :
      strictField members "id" strictId = .ok o ↔
        Gives MessageId.value (members.lookup "id") o :=
    strictField_eq_ok_iff (fun a => by cases a <;> nofun) fun _ found _ =>
      strictId_eq_ok_iff fun k hk => held "id" k (hk ▸ found)
  have type (o : Option MessageType) :
      strictField members "message_type" strictType = .ok o ↔
        Gives MessageType.value (members.lookup "message_type") o :=
    strictField_eq_ok_iff (fun a => by cases a <;> nofun) fun _ found _ =>
      strictType_eq_ok_iff fun k hk => held "message_type" k (hk ▸ found)
  rw [core_ofMembers]
  constructor
  · intro made
    obtain ⟨content, hc, made⟩ := Json.eq_ok_of_bind made
    obtain ⟨kind, hk, made⟩ := Json.eq_ok_of_bind made
    obtain ⟨name, hi, made⟩ := Json.eq_ok_of_bind made
    obtain ⟨messageType, hm, made⟩ := Json.eq_ok_of_bind made
    obtain ⟨isPrivate, hp, made⟩ := Json.eq_ok_of_bind made
    cases made
    exact ⟨(text _ _).1 hk, (text _ _).1 hc, (truth _).1 hp, (id _).1 hi, (type _).1 hm⟩
  · rintro ⟨hk, hc, hp, hi, hm⟩
    rw [(text "content" _).2 hc, (text "event" _).2 hk, (id _).2 hi, (type _).2 hm,
      (truth _).2 hp]
    rfl

theorem ofValue_of_not_isObject {v : Value} (h : v.isObject = false) :
    ofValue v = .error .notObject := by
  cases v with
  | object members => cases h
  | _ => rfl

theorem core_ofValue (members : List (String × Value)) :
    (ofValue (.object members)).map core =
      ((ofMembers members).map core).mapError EventError.wrongField := by
  change ((ofMembers members).mapError EventError.wrongField).map core = _
  cases ofMembers members <;> rfl

/-- Objects with the same deciding members come to the same. -/
theorem core_congr {members others : List (String × Value)}
    (same : ∀ key ∈ decidingKeys, others.lookup key = members.lookup key) :
    (ofMembers others).map core = (ofMembers members).map core := by
  have field {α : Type} (name : String) (decode : Value → Except Mismatch α)
      (hn : name ∈ decidingKeys) :
      strictField others name decode = strictField members name decode := by
    unfold strictField
    rw [same name hn]
  rw [core_ofMembers, core_ofMembers, field "content" _ (by decide), field "event" _ (by decide),
    field "id" _ (by decide), field "message_type" _ (by decide), field "private" _ (by decide)]

/-- Whole numbers have 64 bits in every JSON value there is, which is all that is assumed. Such a
value is an event exactly if it is an object whose deciding members are of their types: text or
nothing for the type and the content, true, false or nothing for the mark of a private note, and
text, a whole number of 64 bits with sign or nothing for the id and the message type. The event says
of itself what these members give and has the value as its payload. Any other object with the same
deciding members, whatever its other members are, comes to the same: it is malformed for the same
reason, or the event says the same of itself. -/
theorem decoded_iff_deciding_fields {v : Value}
    (held : ∀ key k, v.get? key = some (.number k) → k.Readable fun _ => True) :
    ((∃ e, ofValue v = .ok e) ↔ v.isObject = true ∧ WellTyped v) ∧
    (∀ e, ofValue v = .ok e → e.core.IsReadFrom v ∧ e.payload = v) ∧
    ∀ w : Value, w.isObject = v.isObject → (∀ key ∈ decidingKeys, w.get? key = v.get? key) →
      (ofValue w).map core = (ofValue v).map core := by
  cases object : v.isObject with
  | false =>
    have refused := ofValue_of_not_isObject object
    refine ⟨?_, fun e made => ?_, fun w other _ => ?_⟩
    · simp [refused]
    · cases refused.symm.trans made
    · rw [refused, ofValue_of_not_isObject other]
  | true =>
    cases v with
    | object members =>
      have decoded (e : Event) : ofValue (.object members) = .ok e ↔ ofMembers members = .ok e :=
        ⟨Json.eq_ok_of_mapError, fun made => by rw [ofValue, made]; rfl⟩
      refine ⟨?_, fun e made => ?_, fun w other same => ?_⟩
      · rw [wellTyped_iff]
        constructor
        · rintro ⟨e, made⟩
          refine ⟨rfl, e.core, (core_eq_ok_iff held).1 ?_⟩
          rw [(decoded e).1 made]
          rfl
        · rintro ⟨-, c, given⟩
          have made := (core_eq_ok_iff held).2 given
          cases hm : ofMembers members with
          | error m => rw [hm] at made; cases made
          | ok e => exact ⟨e, (decoded e).2 hm⟩
      · have made := (decoded e).1 made
        refine ⟨(core_eq_ok_iff held).1 ?_, (payload_of_ofMembers made).1⟩
        rw [made]
        rfl
      · cases w with
        | object others => rw [core_ofValue, core_ofValue, core_congr same]
        | _ => cases other
    | _ => cases object

/-- An object with the greatest id that fits and an inbox of a wrong type. -/
def greatest : Value :=
  .object [("id", (MessageId.number Int64.maxValue).value), ("inbox", .array [.array []])]

theorem decoded_iff_deciding_fields_of_greatest :
    (∃ e, ofValue greatest = .ok e ∧ e.core.IsReadFrom greatest ∧ e.payload = greatest) ∧
      ¬ ∃ e, ofValue (.object [("id", .number (.integer (2 ^ 63)))]) = .ok e := by
  have single {key : String} {k : Number} {members : List (String × Value)}
      (found : members.lookup key = some (.number k)) : (key, .number k) ∈ members := by
    obtain ⟨front, back, rfl, -⟩ := List.lookup_eq_some_iff.1 found
    exact List.mem_append_right _ List.mem_cons_self
  constructor
  · have held : ∀ key k, greatest.get? key = some (.number k) → k.Readable fun _ => True := by
      intro key k found
      have mem := single found
      simp only [MessageId.value, List.mem_cons, Prod.mk.injEq, Value.number.injEq, reduceCtorEq,
        and_false, List.not_mem_nil, or_false] at mem
      rw [mem.2]
      exact ⟨by decide, by decide⟩
    obtain ⟨accepted, told, -⟩ := decoded_iff_deciding_fields held
    obtain ⟨e, made⟩ := accepted.2 ⟨rfl, ⟨none, .missing⟩, ⟨none, .missing⟩, ⟨none, .missing⟩,
      ⟨some (.number Int64.maxValue), .present _⟩, ⟨none, .missing⟩⟩
    exact ⟨e, made, told e made⟩
  · have held : ∀ key k, Value.get? (.object [("id", .number (.integer (2 ^ 63)))]) key =
        some (.number k) → k.Readable fun _ => True := by
      intro key k found
      have mem := single found
      simp only [List.mem_singleton, Prod.mk.injEq, Value.number.injEq] at mem
      rw [mem.2]
      exact ⟨by decide, by decide⟩
    rw [(decoded_iff_deciding_fields held).1]
    rintro ⟨-, typed⟩
    obtain ⟨id, given⟩ := typed.id
    rcases gives_some_iff.1 given with ⟨null, -⟩ | ⟨a, value, -⟩
    · cases null
    · cases a with
      | text s => cases value
      | number n =>
        have bound := n.toInt_lt
        have same : (2 ^ 63 : Int) = n.toInt := by simpa [MessageId.value] using value
        omega

end Event
end ReplyPipeline
