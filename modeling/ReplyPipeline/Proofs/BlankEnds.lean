import Mathlib.Data.List.TakeWhile
import ReplyPipeline.Text.Basic

/-!
# Blank ends

A text is what trimming leaves of it between two blank texts (`Text.exists_trim`), and blank texts
at its ends do not change what is left (`Text.trim_pad`). What is left begins and ends with
characters that are not blank, if it is not empty.
-/
namespace ReplyPipeline.Text

variable {cs front back : List Char} {a b s : String}

theorem trimChars_append (hf : ∀ c ∈ front, isBlank c = true) (hb : ∀ c ∈ back, isBlank c = true) :
    trimChars (front ++ cs ++ back) = trimChars cs := by
  have hr : ∀ c ∈ back.reverse, isBlank c = true := fun c hc => hb c (List.mem_reverse.1 hc)
  unfold trimChars
  rw [List.append_assoc, List.dropWhile_append_of_pos hf, List.dropWhile_append]
  split
  next blank =>
    rw [List.isEmpty_iff.1 blank, List.dropWhile_eq_nil_iff.2 hb]
  next => rw [List.reverse_append, List.dropWhile_append_of_pos hr]

theorem exists_dropWhile (cs : List Char) :
    ∃ back, (∀ c ∈ back, isBlank c = true) ∧ cs.dropWhile isBlank = trimChars cs ++ back := by
  refine ⟨((cs.dropWhile isBlank).reverse.takeWhile isBlank).reverse,
    fun c hc => List.mem_takeWhile_imp (List.mem_reverse.1 hc), ?_⟩
  rw [trimChars, ← List.reverse_append, List.takeWhile_append_dropWhile, List.reverse_reverse]

theorem exists_trimChars (cs : List Char) :
    ∃ front back, (∀ c ∈ front, isBlank c = true) ∧ (∀ c ∈ back, isBlank c = true) ∧
      cs = front ++ trimChars cs ++ back := by
  obtain ⟨back, hb, rest⟩ := exists_dropWhile cs
  refine ⟨cs.takeWhile isBlank, back, fun c hc => List.mem_takeWhile_imp hc, hb, ?_⟩
  rw [List.append_assoc, ← rest, List.takeWhile_append_dropWhile]

theorem trimChars_eq_nil_iff : trimChars cs = [] ↔ ∀ c ∈ cs, isBlank c = true := by
  constructor
  · intro nothing c hc
    obtain ⟨front, back, hf, hb, all⟩ := exists_trimChars cs
    rw [all, nothing, List.append_nil] at hc
    exact (List.mem_append.1 hc).elim (hf c) (hb c)
  · intro blank
    rw [trimChars, List.dropWhile_eq_nil_iff.2 blank]
    rfl

theorem head?_trimChars {c : Char} (h : (trimChars cs).head? = some c) : isBlank c = false := by
  obtain ⟨back, -, rest⟩ := exists_dropWhile cs
  have first := List.head?_dropWhile_not isBlank cs
  rw [rest, List.head?_append, h] at first
  simpa using first

theorem getLast?_trimChars {c : Char} (h : (trimChars cs).getLast? = some c) :
    isBlank c = false := by
  have last := List.head?_dropWhile_not isBlank (cs.dropWhile isBlank).reverse
  rw [trimChars, List.getLast?_reverse] at h
  rw [h] at last
  simpa using last

theorem allBlank_iff : allBlank s = true ↔ ∀ c ∈ s.toList, isBlank c = true := List.all_eq_true

theorem trim_pad (s : String) (ha : allBlank a = true) (hb : allBlank b = true) :
    trim (a ++ s ++ b) = trim s := by
  rw [trim, String.toList_append, String.toList_append,
    trimChars_append (allBlank_iff.1 ha) (allBlank_iff.1 hb), trim]

theorem exists_trim (s : String) :
    ∃ a b, allBlank a = true ∧ allBlank b = true ∧ s = a ++ trim s ++ b := by
  obtain ⟨front, back, hf, hb, all⟩ := exists_trimChars s.toList
  refine ⟨String.ofList front, String.ofList back, ?_, ?_, ?_⟩
  · rwa [allBlank_iff, String.toList_ofList]
  · rwa [allBlank_iff, String.toList_ofList]
  · rw [trim, ← String.ofList_append, ← String.ofList_append, ← all, String.ofList_toList]

theorem trim_eq_empty_iff : trim s = "" ↔ allBlank s = true := by
  rw [allBlank_iff, ← trimChars_eq_nil_iff, trim, String.ofList_eq_empty_iff]

theorem dropWhile_eq_self (h : ∀ c ∈ cs, isBlank c = false) : cs.dropWhile isBlank = cs := by
  cases cs with
  | nil => rfl
  | cons c cs => rw [List.dropWhile_cons_of_neg (by simp [h c List.mem_cons_self])]

theorem trim_eq_self (h : ∀ c ∈ s.toList, isBlank c = false) : trim s = s := by
  have hr : ∀ c ∈ s.toList.reverse, isBlank c = false := fun c hc => h c (List.mem_reverse.1 hc)
  rw [trim, trimChars, dropWhile_eq_self h, dropWhile_eq_self hr, List.reverse_reverse,
    String.ofList_toList]

/-- Not empty, and no blank at either end. -/
structure FirmEnds (s : String) : Prop where
  first : ∃ c, s.toList.head? = some c ∧ isBlank c = false
  last : ∃ c, s.toList.getLast? = some c ∧ isBlank c = false

theorem firmEnds_trim (h : trim s ≠ "") : FirmEnds (trim s) := by
  have some_ : trimChars s.toList ≠ [] := by rwa [Ne, trim, String.ofList_eq_empty_iff] at h
  constructor
  · have first := List.head?_eq_some_head some_
    rw [trim, String.toList_ofList]
    exact ⟨_, first, head?_trimChars first⟩
  · have last := List.getLast?_eq_some_getLast some_
    rw [trim, String.toList_ofList]
    exact ⟨_, last, getLast?_trimChars last⟩

end ReplyPipeline.Text
