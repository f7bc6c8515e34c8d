import ReplyPipeline.Completion
import ReplyPipeline.Proofs.BlankEnds

/-!
# The choice that is taken for a reply

By the law the reply is what the first choice says that says anything: its content without the blank
ends. There is no reply only where every choice is silent, without a content or with a blank one.
`Completion.first_reply_lawful_iff` says for which completions the law is kept. Only the first
choice is looked at, so a silent one hides what those behind it say; but a reply that there is is
the lawful one, and neither blank nor with blank ends.
-/
namespace ReplyPipeline

open Text (FirmEnds allBlank)

namespace Completion

/-- A content that is missing or blank. -/
def IsSilent (content : Option String) : Prop := ∀ s ∈ content, allBlank s = true

/-- What the first choice says that is not silent. -/
def Says (c : Completion) (reply : String) : Prop :=
  ∃ silent s later, c.choices = silent ++ some s :: later ∧
    (∀ content ∈ silent, IsSilent content) ∧ allBlank s = false ∧ reply = Text.trim s

/-- The reply is what the first choice says that is not silent, and missing only if there is no such
choice. -/
structure IsLawful (c : Completion) : Prop where
  reply : ∀ reply, c.firstReply = .ok reply ↔ c.Says reply
  missing : c.firstReply = .error .emptyReply ↔ ∀ content ∈ c.choices, IsSilent content

variable {c : Completion} {s reply : String} {choices later : List (Option String)}

theorem not_isSilent_some (spoken : allBlank s = false) : ¬ IsSilent (some s) := by
  intro silent
  rw [silent s rfl] at spoken
  cases spoken

theorem exists_first (spoken : ¬ ∀ content ∈ choices, IsSilent content) :
    ∃ silent s later, choices = silent ++ some s :: later ∧
      (∀ content ∈ silent, IsSilent content) ∧ allBlank s = false := by
  induction choices with
  | nil => exact absurd (List.forall_mem_nil _) spoken
  | cons content choices ih =>
    by_cases here : IsSilent content
    · obtain ⟨silent, s, later, all, before, loud⟩ :=
        ih fun others => spoken (List.forall_mem_cons.2 ⟨here, others⟩)
      exact ⟨content :: silent, s, later, congrArg _ all, List.forall_mem_cons.2 ⟨here, before⟩,
        loud⟩
    · obtain ⟨s, rfl, loud⟩ : ∃ s, content = some s ∧ allBlank s = false := by
        simpa [IsSilent] using here
      exact ⟨[], s, choices, rfl, List.forall_mem_nil _, loud⟩

theorem exists_says_iff : (∃ reply, c.Says reply) ↔ ¬ ∀ content ∈ c.choices, IsSilent content := by
  constructor
  · rintro ⟨reply, silent, s, later, all, -, loud, -⟩ every
    apply not_isSilent_some loud (every _ _)
    rw [all]
    exact List.mem_append_right _ List.mem_cons_self
  · intro spoken
    obtain ⟨silent, s, later, all, before, loud⟩ := exists_first spoken
    exact ⟨_, silent, s, later, all, before, loud, rfl⟩

/-- A first choice that is not silent says the reply. -/
theorem says_iff_of_first (first : c.choices = some s :: later) (loud : allBlank s = false) :
    c.Says reply ↔ reply = Text.trim s := by
  constructor
  · rintro ⟨silent, t, rest, all, before, -, rfl⟩
    rw [first] at all
    cases silent with
    | nil =>
      cases all
      rfl
    | cons content silent =>
      cases all
      exact absurd (before _ List.mem_cons_self) (not_isSilent_some loud)
  · rintro rfl
    exact ⟨[], s, later, first, List.forall_mem_nil _, loud, rfl⟩

theorem firstReply_of_first (first : c.choices = some s :: later) (loud : allBlank s = false) :
    c.firstReply = .ok (Text.trim s) := by
  have some_ : Text.trim s ≠ "" := by
    intro nothing
    rw [Text.trim_eq_empty_iff.1 nothing] at loud
    cases loud
  unfold firstReply
  rw [first]
  exact if_neg some_

theorem firstReply_of_silent (silent : ∀ content ∈ c.choices.head?, IsSilent content) :
    c.firstReply = .error .emptyReply := by
  unfold firstReply
  split
  -- what is trimmed is blank, whatever the later choices say
  next content later first =>
    have blank : allBlank content = true := silent (some content) (by rw [first]; rfl) content rfl
    exact if_pos (Text.trim_eq_empty_iff.2 blank)
  next => rfl

theorem exists_first_of_not_silent (h : ¬ ∀ content ∈ c.choices.head?, IsSilent content) :
    ∃ s later, c.choices = some s :: later ∧ allBlank s = false := by
  simp only [not_forall, IsSilent, Bool.not_eq_true] at h
  obtain ⟨content, first, s, rfl, loud⟩ := h
  obtain ⟨later, all⟩ := List.head?_eq_some_iff.1 first
  exact ⟨s, later, all, loud⟩

theorem isLawful_of_first (first : c.choices = some s :: later) (loud : allBlank s = false) :
    c.IsLawful := by
  have said (reply : String) : c.Says reply ↔ reply = Text.trim s := says_iff_of_first first loud
  have replies := firstReply_of_first first loud
  constructor
  · intro reply
    rw [replies, said, Except.ok.injEq, eq_comm]
  · rw [replies]
    refine iff_of_false nofun fun every => not_isSilent_some loud (every _ ?_)
    rw [first]
    exact List.mem_cons_self

theorem isLawful_of_all_silent (every : ∀ content ∈ c.choices, IsSilent content) :
    c.IsLawful := by
  have none := firstReply_of_silent fun content first => every content (List.mem_of_head? first)
  constructor
  · intro reply
    rw [none]
    exact iff_of_false nofun fun said => exists_says_iff.1 ⟨reply, said⟩ every
  · exact iff_of_true none every

theorem says_of_firstReply (h : c.firstReply = .ok reply) : c.Says reply := by
  by_cases silent : ∀ content ∈ c.choices.head?, IsSilent content
  · rw [firstReply_of_silent silent] at h
    cases h
  · obtain ⟨s, later, first, loud⟩ := exists_first_of_not_silent silent
    exact ((isLawful_of_first first loud).reply reply).1 h

theorem Says.firmEnds (h : c.Says reply) : FirmEnds reply := by
  obtain ⟨-, s, -, -, -, loud, rfl⟩ := h
  apply Text.firmEnds_trim
  rw [Ne, Text.trim_eq_empty_iff, loud]
  exact Bool.false_ne_true

end Completion

theorem CompletionModel.says_of_result {answer : Option Http.Reply} {reply : String}
    (h : result answer = .ok reply) : ∃ c : Completion, c.Says reply := by
  unfold result at h
  split at h
  next r _ =>
    unfold replyOf at h
    split at h
    · split at h
      next c _ => exact ⟨c, Completion.says_of_firstReply h⟩
      next => cases h
    · cases h
  next => cases h

namespace Completion

/-- The law is kept exactly for completions whose first choice is not silent, and for those in which
every choice is. For every other completion the reply is missing although some choice says one. In
any case a reply that there is is the lawful one; and whatever comes back from the server, a reply
that is made of it is not empty and has no blank ends. -/
theorem first_reply_lawful_iff (c : Completion) :
    (c.IsLawful ↔ (∀ content ∈ c.choices.head?, IsSilent content) →
      ∀ content ∈ c.choices, IsSilent content) ∧
    (¬ c.IsLawful → c.firstReply = .error .emptyReply ∧ ∃ reply, c.Says reply) ∧
    (∀ reply, c.firstReply = .ok reply → c.Says reply) ∧
    ∀ answer reply, CompletionModel.result answer = .ok reply → FirmEnds reply := by
  have lawful_of_loud (loud : ¬ ∀ content ∈ c.choices.head?, IsSilent content) :
      c.IsLawful := by
    obtain ⟨s, later, first, loud⟩ := exists_first_of_not_silent loud
    exact isLawful_of_first first loud
  refine ⟨⟨fun law silent => law.missing.1 (firstReply_of_silent silent), fun hides => ?_⟩,
    fun unlawful => ⟨firstReply_of_silent ?_, exists_says_iff.2 ?_⟩,
    fun reply => says_of_firstReply, fun answer reply made => ?_⟩
  · by_cases silent : ∀ content ∈ c.choices.head?, IsSilent content
    · exact isLawful_of_all_silent (hides silent)
    · exact lawful_of_loud silent
  · by_contra loud
    exact unlawful (lawful_of_loud loud)
  · intro every
    exact unlawful (isLawful_of_all_silent every)
  · obtain ⟨answered, said⟩ := CompletionModel.says_of_result made
    exact said.firmEnds

def hesitant : Completion := ⟨[some " ", some " Hello!"]⟩

theorem says_hesitant : hesitant.Says "Hello!" := by
  have silent : IsSilent (some " ") := by
    rintro _ ⟨⟩
    decide
  exact ⟨[some " "], " Hello!", [], rfl, List.forall_mem_singleton.2 silent, by decide, by decide⟩

theorem not_isLawful_hesitant : ¬ hesitant.IsLawful := by
  intro law
  have none : hesitant.firstReply = .error .emptyReply := by decide
  exact exists_says_iff.1 ⟨_, says_hesitant⟩ (law.missing.1 none)

theorem first_reply_lawful_iff_of_hesitant :
    ¬ hesitant.IsLawful ∧ hesitant.Says "Hello!" ∧ hesitant.firstReply = .error .emptyReply := by
  obtain ⟨-, otherwise, -⟩ := first_reply_lawful_iff hesitant
  exact ⟨not_isLawful_hesitant, says_hesitant, (otherwise not_isLawful_hesitant).1⟩

/-- The law is not kept by every completion. -/
theorem first_replies_not_all_lawful : ¬ ∀ c : Completion, c.IsLawful := by
  intro law
  exact not_isLawful_hesitant (law hesitant)

end Completion
end ReplyPipeline
