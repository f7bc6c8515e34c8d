import ReplyPipeline.Proofs.BlankEnds
import ReplyPipeline.Proofs.DecidingFields
import ReplyPipeline.Proofs.IntegerText
import ReplyPipeline.Proofs.Resending

/-!
# The one form of an id

A correlation id comes out of the text of a message id, of its number, of a text beside a message in
a queue or of the JSON text of a task. All of them go through `CorrelationId.ofText`, which forgets
the blank ends of a text and nothing else. So an id that has been made once stays what it is however
often it is passed on, and a whole number makes the same id as a number and as padded text
(`CorrelationId.one_form_everywhere`).
-/
namespace ReplyPipeline

open Json (Value)
open Text (FirmEnds allBlank)

namespace CorrelationId

variable {s : String} {id : CorrelationId}

theorem firmEnds_text (id : CorrelationId) : FirmEnds id.text := by
  have some_ : Text.trim id.text ≠ "" := by rw [id.trim_text]; exact id.ne_empty
  exact id.trim_text ▸ Text.firmEnds_trim some_

theorem exists_ofText_iff :
    (∃ id, ofText s = .ok id) ↔ ∃ c ∈ s.toList, Text.isBlank c = false := by
  have blank : Text.trim s = "" ↔ ¬ ∃ c ∈ s.toList, Text.isBlank c = false := by
    rw [Text.trim_eq_empty_iff, Text.allBlank_iff]
    simp
  unfold ofText
  split
  next nothing => simp [blank.1 nothing]
  next some_ => exact iff_of_true ⟨_, rfl⟩ (not_not.1 fun none => some_ (blank.2 none))

theorem text_of_ofText (h : ofText s = .ok id) : id.text = Text.trim s := by
  unfold ofText at h
  split at h
  · cases h
  · cases h
    rfl

theorem ofText_eq_ok_iff :
    ofText s = .ok id ↔ ∃ a b, allBlank a = true ∧ allBlank b = true ∧ s = a ++ id.text ++ b := by
  constructor
  · intro made
    obtain ⟨a, b, ha, hb, all⟩ := Text.exists_trim s
    exact ⟨a, b, ha, hb, text_of_ofText made ▸ all⟩
  · rintro ⟨a, b, ha, hb, rfl⟩
    apply ofText_eq_ok_of_trim
    rw [Text.trim_pad id.text ha hb, id.trim_text]

theorem run_reader_chars (id : CorrelationId) :
    reader.run (Text.Utf8.encode id.chars) = .ok id := by
  have all := id.readsAs_chars Json.nestingLimit [] Json.ends_nil
  rw [List.append_nil] at all
  unfold Json.Reader.run
  rw [all]
  rfl

theorem trim_showInt (n : Int) : Text.trim (Decimal.showInt n) = Decimal.showInt n := by
  apply Text.trim_eq_self
  intro c hc
  rw [Decimal.showInt, String.toList_ofList] at hc
  by_contra blank
  have digit : c.isDigit = false := by
    by_contra digit
    exact blank (Instant.isBlank_of_isDigit (by simpa using digit))
  have minus : c ≠ '-' := by
    rintro rfl
    exact blank rfl
  exact Decimal.not_mem_intText digit minus n hc

theorem showInt_ne_empty (n : Int) : Decimal.showInt n ≠ "" := by
  rw [Ne, Decimal.showInt, String.ofList_eq_empty_iff]
  cases n with
  | ofNat n => exact Nat.toDigits_ne_nil
  | negSucc n => exact List.cons_ne_nil _ _

def ofNumber (n : Int64) : CorrelationId :=
  ⟨Decimal.showInt n.toInt, trim_showInt n.toInt, showInt_ne_empty n.toInt⟩

theorem ofNumber_injective : Function.Injective ofNumber := by
  intro m n same
  have digits := congrArg CorrelationId.text same
  exact Int64.toInt_inj.1 (Decimal.intText_injective (String.ofList_injective digits))

end CorrelationId

/-- A message id is a whole number: as a number, or in decimal digits between blank ends. -/
inductive MessageId.Writes (n : Int64) : MessageId → Prop
  | number : Writes n (.number n)
  | padded {a b : String} : allBlank a = true → allBlank b = true →
      Writes n (.text (a ++ Decimal.showInt n.toInt ++ b))

theorem MessageId.Writes.correlationId? {n : Int64} {i : MessageId} (h : i.Writes n) :
    i.correlationId? = some (.ofNumber n) := by
  apply MessageId.Spells.correlationId?_eq
  cases h with
  | number => exact rfl
  | padded ha hb =>
    exact (Text.trim_pad _ ha hb).trans (CorrelationId.trim_showInt n.toInt)

theorem Event.strictField_of_value {members : List (String × Value)} {i : MessageId}
    (found : members.lookup "id" = some i.value) :
    strictField members "id" strictId = .ok (some i) := by
  have read : strictId i.value = .ok i := by
    apply (strictId_eq_ok_iff fun k hk => ?_).2 rfl
    cases i with
    | number n =>
      cases hk
      exact ⟨n.le_toInt, by have := n.toInt_lt; omega⟩
    | text s => cases hk
  unfold strictField
  rw [found]
  cases i <;> exact congrArg (Except.map some) read

theorem Event.id_of_ofValue {v : Value} {e : Event} {i : MessageId}
    (decoded : Event.ofValue v = .ok e) (given : v.get? "id" = some i.value) : e.id = some i := by
  cases v with
  | object members =>
    have made : (ofMembers members).map core = .ok e.core := by
      rw [Json.eq_ok_of_mapError decoded]
      rfl
    rw [core_ofMembers] at made
    obtain ⟨content, -, made⟩ := Json.eq_ok_of_bind made
    obtain ⟨type, -, made⟩ := Json.eq_ok_of_bind made
    obtain ⟨id, read, made⟩ := Json.eq_ok_of_bind made
    obtain ⟨messageType, -, made⟩ := Json.eq_ok_of_bind made
    obtain ⟨isPrivate, -, made⟩ := Json.eq_ok_of_bind made
    have same : id = e.id := congrArg Core.id (Except.ok.inj made)
    have found : members.lookup "id" = some i.value := given
    rw [strictField_of_value found] at read
    rw [← same, ← Except.ok.inj read]
  | _ => cases decoded

namespace CorrelationId

/-- A text makes an id exactly if it has a character that is not blank, and two texts make the same
id exactly if they differ in their blank ends only. The text of an id is not empty and has no blank
at its ends; it makes the same id again, and so does the JSON text of the id. Whole numbers make the
same id, written as numbers or as texts, exactly if they are the same; and that is the id of every
event whose payload has them as its id. -/
theorem one_form_everywhere :
    (∀ s : String, (∃ id, ofText s = .ok id) ↔ ∃ c ∈ s.toList, Text.isBlank c = false) ∧
    (∀ (s : String) (id : CorrelationId), ofText s = .ok id ↔
      ∃ a b, allBlank a = true ∧ allBlank b = true ∧ s = a ++ id.text ++ b) ∧
    (∀ id : CorrelationId, FirmEnds id.text ∧ ofText id.text = .ok id ∧
      reader.run (Text.Utf8.encode id.chars) = .ok id) ∧
    ∀ (m n : Int64) (i j : MessageId), i.Writes m → j.Writes n →
      (∃ id, i.correlationId? = some id) ∧ (i.correlationId? = j.correlationId? ↔ m = n) ∧
      ∀ (v : Value) (e : Event), Event.ofValue v = .ok e → v.get? "id" = some i.value →
        e.correlationId? = i.correlationId? := by
  refine ⟨fun s => exists_ofText_iff, fun s id => ofText_eq_ok_iff,
    fun id => ⟨id.firmEnds_text, id.ofText_text, id.run_reader_chars⟩,
    fun m n i j hi hj => ⟨⟨_, hi.correlationId?⟩, ?_, fun v e decoded given => ?_⟩⟩
  · rw [hi.correlationId?, hj.correlationId?, Option.some.injEq]
    exact ofNumber_injective.eq_iff
  · rw [Event.correlationId?, Event.id_of_ofValue decoded given]
    rfl

theorem one_form_everywhere_of_padding :
    ofText "\u00a0-42\u2003" = .ok (ofNumber (-42)) ∧
      ∀ e, Event.ofValue (.object [("id", .string "\u00a0-42\u2003")]) = .ok e →
        e.correlationId? = (MessageId.number (-42)).correlationId? := by
  have padded : MessageId.Writes (-42) (.text "\u00a0-42\u2003") :=
    .padded (a := "\u00a0") (b := "\u2003") (by decide) (by decide)
  obtain ⟨-, made, -, numbers⟩ := one_form_everywhere
  refine ⟨(made _ _).2 ⟨"\u00a0", "\u2003", by decide, by decide, by decide⟩, fun e decoded => ?_⟩
  obtain ⟨-, same, events⟩ := numbers (-42) (-42) _ _ padded .number
  rw [events _ e decoded rfl, same.2 rfl]

end CorrelationId
end ReplyPipeline
