import Mathlib

/-!
# One place of a list

Lists are taken apart at one place, where an item is looked at or replaced. What holds of all items,
or is counted over them, is then a matter of that item and the others. Lists of entries are looked
up by their keys.
-/
namespace ReplyPipeline

variable {α : Type} {as bs : List α} {a a' : α}

theorem append_cons_of_getElem? {l : List α} {k : Nat} (h : l[k]? = some a) :
    l = l.take k ++ a :: l.drop (k + 1) ∧ (l.take k).length = k := by
  obtain ⟨hk, rfl⟩ := List.getElem?_eq_some_iff.1 h
  refine ⟨?_, List.length_take_of_le (Nat.le_of_lt hk)⟩
  rw [List.getElem_cons_drop, List.take_append_drop]

theorem getElem?_replaced (as bs : List α) (a a' : α) (k : Nat) :
    (as ++ a' :: bs)[k]? = if k = as.length then some a' else (as ++ a :: bs)[k]? := by
  rcases Nat.lt_trichotomy k as.length with h | h | h
  · rw [if_neg (Nat.ne_of_lt h), List.getElem?_append_left h, List.getElem?_append_left h]
  · rw [if_pos h, List.getElem?_append_right (Nat.le_of_eq h.symm), h, Nat.sub_self]
    rfl
  · rw [if_neg (Nat.ne_of_gt h), List.getElem?_append_right (Nat.le_of_lt h),
      List.getElem?_append_right (Nat.le_of_lt h)]
    obtain ⟨j, hj⟩ := Nat.exists_eq_add_of_lt h
    rw [show k - as.length = j + 1 by omega]
    rfl

theorem mem_append_cons {b : α} : b ∈ as ++ a :: bs ↔ b = a ∨ b ∈ as ++ bs := by
  rw [List.perm_middle.mem_iff, List.mem_cons]

theorem forall_mem_replaced {P : α → Prop} {l : List α} (hl : l = as ++ a :: bs)
    (h : ∀ b ∈ l, P b) (ha : P a') : ∀ b ∈ as ++ a' :: bs, P b := by
  intro b hb
  rcases mem_append_cons.1 hb with rfl | hb
  · exact ha
  · exact h b (by rw [hl]; exact mem_append_cons.2 (.inr hb))

theorem countP_middle (p : α → Bool) (as bs : List α) (a : α) :
    (as ++ a :: bs).countP p = (as ++ bs).countP p + (p a).toNat := by
  rw [List.perm_middle.countP_eq, List.countP_cons]
  cases p a <;> rfl

/-- Entries picked by their keys alone are found as before, or not at all. -/
theorem lookup_keep {β : Type} [DecidableEq α] (l : List (α × β)) (keep : α → Bool) (k : α) :
    (l.filter fun p => keep p.1).lookup k = if keep k then l.lookup k else none := by
  induction l with
  | nil => simp
  | cons p l ih =>
    obtain ⟨j, x⟩ := p
    by_cases hj : k = j
    · subst hj
      rw [List.filter_cons]
      cases hk : keep k with
      | true => simp
      | false => rw [if_neg (by simp), ih, hk]; rfl
    · have hne : (k == j) = false := by simpa using hj
      rw [List.filter_cons]
      split <;> simp [List.lookup_cons, hne, ih]

theorem sum_map_le_countP {l : List α} {f : α → Nat} {p : α → Bool}
    (h : ∀ a ∈ l, f a ≤ (p a).toNat) : (l.map f).sum ≤ l.countP p := by
  induction l with
  | nil => exact Nat.le_refl _
  | cons a l ih =>
    have first := h a List.mem_cons_self
    have rest := ih fun b hb => h b (List.mem_cons_of_mem a hb)
    rw [List.map_cons, List.sum_cons, List.countP_cons]
    cases hp : p a with
    | true => simp [hp] at first ⊢; omega
    | false => simp [hp] at first ⊢; omega

end ReplyPipeline
