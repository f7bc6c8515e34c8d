import ReplyPipeline.Proofs.DecidingFields
import ReplyPipeline.Proofs.IntegerText

/-!
# The fields that describe

The account, the conversation, the inbox and the sender never make an event malformed. The law for
them is that a place holds the id of the object that stands in it, be it a number or a text that
spells one, and that the sender type is that of the object in its place; of another shape a value
counts for nothing. The reader keeps the law but for lists: it takes a list of the right length for
an object whose fields it names in order. So an account `[4]` is read as the account 4, and the
fourth item of a sender as its type (`Event.descriptive_fields_lawful_iff`).
-/
namespace ReplyPipeline.Event

open Json (Value)

/-- The places of an event in which another object of the platform stands. -/
inductive Place where
  | account
  | conversation
  | inbox
  deriving DecidableEq, Repr

namespace Place

def key : Place → String
  | account => "account"
  | conversation => "conversation"
  | inbox => "inbox"

/-- The id in the place, as the event has it. -/
def idIn : Place → Event → Int64
  | account, e => e.tenant
  | conversation, e => e.conversationId
  | inbox, e => e.inboxId

end Place

/-- A value stands for a number: as that number, or as a text that spells it between blanks. -/
inductive Denotes : Value → Int64 → Prop
  | number (n : Int64) : Denotes (.number (.integer n.toInt)) n
  | text {s : String} {n : Int64} :
      Decimal.Spells (Text.trim s).toList n.toInt → Denotes (.string s) n

/-- There is an object here, and it has an id that stands for a number. -/
def NamesId (o : Option Value) (n : Int64) : Prop :=
  ∃ v w, o = some v ∧ v.get? "id" = some w ∧ Denotes w n

/-- There is a list here, and its one item stands for a number. -/
def ListsId (o : Option Value) (n : Int64) : Prop :=
  ∃ w, o = some (.array [w]) ∧ Denotes w n

/-- There is an object here, and its type is a text. -/
def NamesType (o : Option Value) (s : String) : Prop :=
  ∃ v, o = some v ∧ v.get? "type" = some (.string s)

/-- There is a list of four here, and its last item is a text. -/
def ListsType (o : Option Value) (s : String) : Prop :=
  ∃ id name email, o = some (.array [id, name, email, .string s])

/-- It is the number that there is, and zero if there is none. -/
structure IsOrZero (P : Int64 → Prop) (n : Int64) : Prop where
  number : ∀ m, P m → n = m
  zero : (∀ m, ¬P m) → n = 0

section Readers

variable {w : Value} {o : Option Value} {m n : Int64} {s : String} {depth : Nat}

theorem ListsId.not_namesId (h : ListsId o n) : ¬NamesId o m := by
  obtain ⟨w, rfl, -⟩ := h
  rintro ⟨v, x, same, found, -⟩
  cases same
  cases found

theorem parseI64_eq_ok_iff : parseI64 s = .ok n ↔ Decimal.Spells (Text.trim s).toList n.toInt := by
  have read (i : Int) := Decimal.readInteger_eq_ok_iff (w := .i64) (s := Text.trim s) (m := i)
    (by decide) (by decide) rfl
  have holds (i : Int) : Decimal.Width.i64.holds i = true ↔ -2 ^ 63 ≤ i ∧ i < 2 ^ 63 := by
    unfold Decimal.Width.holds Decimal.Width.i64
    rw [Bool.and_eq_true, decide_eq_true_iff, decide_eq_true_iff]
    dsimp only
    omega
  unfold parseI64
  constructor
  · intro made
    cases value : Decimal.readInteger .i64 (Text.trim s) with
    | error e => rw [value] at made; cases made
    | ok i =>
      rw [value] at made
      cases made
      obtain ⟨spelled, held⟩ := (read i).1 value
      obtain ⟨low, high⟩ := (holds i).1 held
      rwa [Int64.toInt_ofInt_of_le low high]
  · intro spelled
    rw [(read n.toInt).2 ⟨spelled, (holds _).2 ⟨n.le_toInt, n.toInt_lt⟩⟩]
    exact congrArg Except.ok (Int64.ofInt_toInt n)

/-- A lenient id is the number that a value stands for. -/
theorem lenientId_eq_some_iff (held : w.Readable (fun _ => True) depth) :
    lenientId w = some n ↔ Denotes w n := by
  cases w with
  | string s =>
    constructor
    · intro found
      exact .text (parseI64_eq_ok_iff.1 (Json.eq_ok_of_toOption found))
    · rintro (_ | spelled)
      exact congrArg Except.toOption (parseI64_eq_ok_iff.2 spelled)
  | number k =>
    have readable : k.Readable fun _ => True := by cases depth <;> exact held
    change (Value.number k).i64?.map Int64.ofInt = some n ↔ _
    rw [i64?_number_iff readable]
    constructor
    · rintro rfl
      exact .number n
    · rintro ⟨⟩
      rfl
  | _ => exact ⟨nofun, nofun⟩

/-- A field is a member of an object, or an item of a list that is no longer than the names. -/
theorem lenientField_eq_some_iff {names : List String} {name : String} {x : Value} :
    (lenientFields names w).bind (· name) = some x ↔
      w.get? name = some x ∨ ∃ items, w = .array items ∧ items.length ≤ names.length ∧
        (names.zip items).lookup name = some x := by
  cases w with
  | object members => simp [lenientFields, Value.get?]
  | array items =>
    by_cases short : items.length ≤ names.length <;> simp [lenientFields, Value.get?, short]
  | _ => simp [lenientFields, Value.get?]

theorem id_item_iff {items : List Value} {x : Value} :
    items.length ≤ 1 ∧ (["id"].zip items).lookup "id" = some x ↔ items = [x] := by
  match items with
  | [] => simp
  | [a] => simp
  | _ :: _ :: _ => simp

theorem type_item_iff {items : List Value} {x : Value} :
    items.length ≤ 4 ∧ (["id", "name", "email", "type"].zip items).lookup "type" = some x ↔
      ∃ id name email, items = [id, name, email, x] := by
  match items with
  | [] => simp
  | [_] => simp [List.lookup]
  | [_, _] => simp [List.lookup]
  | [_, _, _] => simp [List.lookup]
  | [_, _, _, _] => simp [List.lookup]
  | _ :: _ :: _ :: _ :: _ :: _ => simp

theorem lenientReference_id_iff (held : w.Readable (fun _ => True) depth) :
    (lenientReference w).bind Reference.id = some n ↔
      NamesId (some w) n ∨ ListsId (some w) n := by
  have field : (lenientReference w).bind Reference.id =
      ((lenientFields ["id"] w).bind (· "id")).bind lenientId := by
    unfold lenientReference
    cases lenientFields ["id"] w <;> rfl
  have part {x : Value} (found : (lenientFields ["id"] w).bind (· "id") = some x) :
      lenientId x = some n ↔ Denotes x n := by
    rcases lenientField_eq_some_iff.1 found with member | ⟨items, rfl, item⟩
    · cases depth with
      | zero =>
        cases w with
        | object members => exact held.elim
        | _ => cases member
      | succ depth => exact lenientId_eq_some_iff (held.get? member)
    · obtain rfl := id_item_iff.1 item
      cases depth with
      | zero => exact held.elim
      | succ depth => exact lenientId_eq_some_iff (held x List.mem_cons_self)
  rw [field, Option.bind_eq_some_iff, exists_congr fun x => and_congr_right part]
  constructor
  · rintro ⟨x, found, denoted⟩
    rcases lenientField_eq_some_iff.1 found with member | ⟨items, rfl, item⟩
    · exact .inl ⟨w, x, rfl, member, denoted⟩
    · obtain rfl := id_item_iff.1 item
      exact .inr ⟨x, rfl, denoted⟩
  · rintro (⟨_, x, ⟨⟩, member, denoted⟩ | ⟨x, ⟨⟩, denoted⟩)
    · exact ⟨x, lenientField_eq_some_iff.2 (.inl member), denoted⟩
    · exact ⟨x, lenientField_eq_some_iff.2 (.inr ⟨[x], rfl, id_item_iff.2 rfl⟩), denoted⟩

theorem lenientAuthor_type_iff :
    (lenientAuthor w).bind Author.type = some s ↔
      NamesType (some w) s ∨ ListsType (some w) s := by
  have field : (lenientAuthor w).bind Author.type =
      ((lenientFields ["id", "name", "email", "type"] w).bind (· "type")).bind Value.text? := by
    unfold lenientAuthor
    cases lenientFields ["id", "name", "email", "type"] w <;> rfl
  have text (x : Value) : x.text? = some s ↔ x = .string s := by
    cases x <;> simp [Value.text?]
  rw [field, Option.bind_eq_some_iff]
  simp only [text, exists_eq_right]
  rw [lenientField_eq_some_iff]
  constructor
  · rintro (member | ⟨items, rfl, item⟩)
    · exact .inl ⟨w, rfl, member⟩
    · obtain ⟨id, name, email, rfl⟩ := type_item_iff.1 item
      exact .inr ⟨id, name, email, rfl⟩
  · rintro (⟨_, ⟨⟩, member⟩ | ⟨id, name, email, ⟨⟩⟩)
    · exact .inl member
    · exact .inr ⟨_, rfl, type_item_iff.2 ⟨id, name, email, rfl⟩⟩

/-- A place in an object has the id that is named or listed there, or zero. -/
theorem referenceId_spec (held : ∀ w, o = some w → w.Readable (fun _ => True) depth) :
    IsOrZero (fun n => NamesId o n ∨ ListsId o n) (referenceId (o.bind lenientReference)) := by
  have read (n : Int64) : (o.bind lenientReference).bind Reference.id = some n ↔
      NamesId o n ∨ ListsId o n := by
    cases o with
    | none =>
      refine ⟨nofun, ?_⟩
      rintro (⟨_, _, ⟨⟩, -⟩ | ⟨_, ⟨⟩, -⟩)
    | some w => exact lenientReference_id_iff (held w rfl)
  unfold referenceId
  constructor
  · intro n given
    rw [(read n).2 given]
    rfl
  · intro none
    rw [Option.eq_none_iff_forall_ne_some.2 fun n found => none n ((read n).1 found)]
    rfl

/-- What is read of a place is what the law says exactly if no list gives anything but zero. -/
theorem IsOrZero.lawful_iff (h : IsOrZero (fun n => NamesId o n ∨ ListsId o n) n) :
    IsOrZero (NamesId o) n ↔ ∀ m, ListsId o m → m = 0 := by
  constructor
  · intro lawful m listed
    rw [← h.number m (.inr listed)]
    exact lawful.zero fun _ => listed.not_namesId
  · intro listed
    refine ⟨fun m named => h.number m (.inl named), fun none => ?_⟩
    by_cases some_ : ∃ m, ListsId o m
    · obtain ⟨m, given⟩ := some_
      rw [h.number m (.inr given), listed m given]
    · exact h.zero fun m given => given.elim (none m) fun given => some_ ⟨m, given⟩

end Readers

/-- What an event has in its places and as its sender is read from the members there. -/
theorem described_of_ofMembers {members : List (String × Value)} {e : Event}
    (h : ofMembers members = .ok e) :
    (∀ place : Place, place.idIn e =
      referenceId ((members.lookup place.key).bind lenientReference)) ∧
    e.senderType? = ((members.lookup "sender").bind lenientAuthor).bind Author.type := by
  obtain ⟨_, -, made⟩ := Json.eq_ok_of_bind h
  obtain ⟨_, -, made⟩ := Json.eq_ok_of_bind made
  obtain ⟨_, -, made⟩ := Json.eq_ok_of_bind made
  obtain ⟨_, -, made⟩ := Json.eq_ok_of_bind made
  obtain ⟨_, -, made⟩ := Json.eq_ok_of_bind made
  cases made
  exact ⟨fun place => by cases place <;> rfl, rfl⟩

variable {v : Value} {depth : Nat}

/-- An object whose deciding members are of their types is an event, whatever its other members. -/
theorem exists_ofMembers (object : v.isObject = true) (typed : WellTyped v)
    (held : v.Readable (fun _ => True) depth) :
    ∃ members e, v = .object members ∧ ofMembers members = .ok e := by
  cases v with
  | object members =>
    obtain ⟨c, given⟩ := wellTyped_iff.1 typed
    have made := (core_eq_ok_iff fun key k found => held.number_get? found).2 given
    cases decoded : ofMembers members with
    | error m => rw [decoded] at made; cases made
    | ok e => exact ⟨members, e, rfl, decoded⟩
  | _ => cases object

/-- Whole numbers have 64 bits and keys stand in order in every JSON value there is, which is all
that is assumed. Whatever stands in the descriptive places of an object whose deciding members are
of their types, the object is an event. Each place has the id that an object names there or that a
list of one item gives, and zero if neither is there; so it is read by the law, by which only
objects count, exactly if no such list gives anything but zero. The sender type is that of an object
or the last item of a list of four; so it is read by the law exactly if there is no such list. -/
theorem descriptive_fields_lawful_iff (object : v.isObject = true) (typed : WellTyped v)
    (held : v.Readable (fun _ => True) depth) :
    ∃ e, ofValue v = .ok e ∧
      (∀ place : Place,
        IsOrZero (fun n => NamesId (v.get? place.key) n ∨ ListsId (v.get? place.key) n)
          (place.idIn e) ∧
        (IsOrZero (NamesId (v.get? place.key)) (place.idIn e) ↔
          ∀ n, ListsId (v.get? place.key) n → n = 0)) ∧
      (∀ s, e.senderType? = some s ↔
        NamesType (v.get? "sender") s ∨ ListsType (v.get? "sender") s) ∧
      ((∀ s, e.senderType? = some s ↔ NamesType (v.get? "sender") s) ↔
        ∀ s, ¬ListsType (v.get? "sender") s) := by
  obtain ⟨members, e, rfl, made⟩ := exists_ofMembers object typed held
  obtain ⟨places, sender⟩ := described_of_ofMembers made
  have type (s : String) : e.senderType? = some s ↔
      NamesType (members.lookup "sender") s ∨ ListsType (members.lookup "sender") s := by
    rw [sender]
    cases members.lookup "sender" with
    | none =>
      refine ⟨nofun, ?_⟩
      rintro (⟨_, ⟨⟩, -⟩ | ⟨_, _, _, ⟨⟩⟩)
    | some w => exact lenientAuthor_type_iff
  refine ⟨e, ?_, fun place => ?_, type, ?_⟩
  · rw [ofValue, made]
    rfl
  · have read : IsOrZero (fun n => NamesId (members.lookup place.key) n ∨
        ListsId (members.lookup place.key) n) (place.idIn e) := by
      rw [places place]
      cases depth with
      | zero => exact held.elim
      | succ depth => exact referenceId_spec fun w found => held.get? found
    exact ⟨read, read.lawful_iff⟩
  · constructor
    · intro lawful s listed
      obtain ⟨v, there, found⟩ := (lawful s).1 ((type s).2 (.inr listed))
      obtain ⟨_, _, _, list⟩ := listed
      cases there.symm.trans list
      cases found
    · intro none s
      exact (type s).trans (or_iff_left (none s))

/-- An account as a text, a conversation in a list, and the sender as a list. -/
def listed : Value :=
  .object [("account", .object [("id", .string " 8 ")]),
    ("conversation", .array [.number (.integer (7 : Int64).toInt)]),
    ("sender", .array [.null, .null, .null, .string "AgentBot"])]

theorem listed_wellTyped : WellTyped listed :=
  ⟨⟨none, .missing⟩, ⟨none, .missing⟩, ⟨none, .missing⟩, ⟨none, .missing⟩, ⟨none, .missing⟩⟩

theorem listed_readable : listed.Readable (fun _ => True) 2 := by
  refine ⟨by unfold Json.Sorted; decide, ?_⟩
  intro m hm
  rcases List.mem_cons.1 hm with rfl | hm
  · exact ⟨List.pairwise_singleton _ _, List.forall_mem_singleton.2 trivial⟩
  rcases List.mem_cons.1 hm with rfl | hm
  · exact List.forall_mem_singleton.2 ⟨by decide, by decide⟩
  rcases List.mem_singleton.1 hm with rfl
  intro w hw
  simp only [List.mem_cons, List.not_mem_nil, or_false] at hw
  rcases hw with rfl | rfl | rfl | rfl <;> trivial

theorem descriptive_fields_lawful_of_lists :
    ∃ e, ofValue listed = .ok e ∧ e.tenant = 8 ∧ e.conversationId = 7 ∧ e.inboxId = 0 ∧
      e.senderType? = some "AgentBot" ∧
      IsOrZero (NamesId (listed.get? "account")) e.tenant ∧
      ¬IsOrZero (NamesId (listed.get? "conversation")) e.conversationId := by
  obtain ⟨e, made, places, types, -⟩ :=
    descriptive_fields_lawful_iff rfl listed_wellTyped listed_readable
  have account : NamesId (listed.get? "account") 8 :=
    ⟨_, _, rfl, rfl, .text (.digits (by decide) (List.forall_mem_singleton.2 rfl))⟩
  have conversation : ListsId (listed.get? "conversation") 7 := ⟨_, rfl, .number 7⟩
  refine ⟨e, made, (places .account).1.number 8 (.inl account),
    (places .conversation).1.number 7 (.inr conversation), (places .inbox).1.zero ?_,
    (types "AgentBot").2 (.inr ⟨.null, .null, .null, rfl⟩), (places .account).2.2 ?_, ?_⟩
  · rintro m (⟨_, _, ⟨⟩, -⟩ | ⟨_, ⟨⟩, -⟩)
  · rintro m ⟨_, ⟨⟩, -⟩
  · intro lawful
    exact absurd ((places .conversation).2.1 lawful 7 conversation) (by decide)

/-- Neither half of the law holds of all values: a conversation in a list is read, and so is the
type of a sender in a list. -/
theorem descriptive_fields_not_all_lawful :
    (¬∀ (v : Value) (depth : Nat), v.isObject = true → WellTyped v →
      v.Readable (fun _ => True) depth → ∃ e, ofValue v = .ok e ∧
        ∀ place : Place, IsOrZero (NamesId (v.get? place.key)) (place.idIn e)) ∧
    ¬∀ (v : Value) (depth : Nat), v.isObject = true → WellTyped v →
      v.Readable (fun _ => True) depth → ∃ e, ofValue v = .ok e ∧
        ∀ s, e.senderType? = some s ↔ NamesType (v.get? "sender") s := by
  constructor
  · intro all
    obtain ⟨e, made, lawful⟩ := all listed 2 rfl listed_wellTyped listed_readable
    cases made
    have zero := (lawful .conversation).zero (by rintro m ⟨_, _, ⟨⟩, found, -⟩; cases found)
    exact absurd zero (by decide)
  · intro all
    obtain ⟨e, made, lawful⟩ := all listed 2 rfl listed_wellTyped listed_readable
    cases made
    obtain ⟨_, ⟨⟩, found⟩ := (lawful "AgentBot").1 rfl
    cases found

end ReplyPipeline.Event
