import ReplyPipeline.Proofs.Readable

/-!
# Whole numbers and nesting

Two things decide whether a value that was read comes back from its text unchanged: that all its
numbers are whole, and that it nests no deeper than the reader lets it. Both are computed here, and
are related to what a reader gives.
-/
namespace ReplyPipeline.Json

open Decimal (Binary Format)

mutual

/-- How deep arrays and objects nest in a value. -/
def Value.depth : Value → Nat
  | .array vs => itemsDepth vs + 1
  | .object ms => membersDepth ms + 1
  | _ => 0

def itemsDepth : List Value → Nat
  | [] => 0
  | v :: vs => max v.depth (itemsDepth vs)

def membersDepth : List (String × Value) → Nat
  | [] => 0
  | (_, v) :: ms => max v.depth (membersDepth ms)

end

mutual

/-- No number of double precision occurs in a value. -/
def Value.isWhole : Value → Bool
  | .number (.real _) => false
  | .array vs => wholeItems vs
  | .object ms => wholeMembers ms
  | _ => true

def wholeItems : List Value → Bool
  | [] => true
  | v :: vs => v.isWhole && wholeItems vs

def wholeMembers : List (String × Value) → Bool
  | [] => true
  | (_, v) :: ms => v.isWhole && wholeMembers ms

end

theorem itemsDepth_le {vs : List Value} {n : Nat} :
    itemsDepth vs ≤ n ↔ ∀ v ∈ vs, v.depth ≤ n := by
  induction vs with
  | nil => simp [itemsDepth]
  | cons v vs ih => rw [itemsDepth, Nat.max_le, ih, List.forall_mem_cons]

theorem membersDepth_le {ms : List (String × Value)} {n : Nat} :
    membersDepth ms ≤ n ↔ ∀ m ∈ ms, m.2.depth ≤ n := by
  induction ms with
  | nil => simp [membersDepth]
  | cons m ms ih => rw [membersDepth, Nat.max_le, ih, List.forall_mem_cons]

theorem wholeItems_iff {vs : List Value} : wholeItems vs = true ↔ ∀ v ∈ vs, v.isWhole = true := by
  induction vs with
  | nil => simp [wholeItems]
  | cons v vs ih => rw [wholeItems, Bool.and_eq_true, ih, List.forall_mem_cons]

theorem wholeMembers_iff {ms : List (String × Value)} :
    wholeMembers ms = true ↔ ∀ m ∈ ms, m.2.isWhole = true := by
  induction ms with
  | nil => simp [wholeMembers]
  | cons m ms ih => rw [wholeMembers, Bool.and_eq_true, ih, List.forall_mem_cons]

namespace Value

variable {P : Binary → Prop} {v : Value} {m n : Nat}

/-- What is neither array nor object can be read at any depth or at none. -/
theorem Readable.of_depth_eq_zero (h : v.Readable P m) (flat : v.depth = 0) (n : Nat) :
    v.Readable P n := by
  cases v with
  | null => cases n <;> trivial
  | bool b => cases n <;> trivial
  | string s => cases n <;> trivial
  | number k => cases m <;> cases n <;> exact h
  | array vs => exact absurd flat (Nat.succ_ne_zero _)
  | object ms => exact absurd flat (Nat.succ_ne_zero _)

theorem Readable.depth_le (h : v.Readable P n) : v.depth ≤ n := by
  induction n generalizing v with
  | zero =>
    cases v with
    | array vs => exact h.elim
    | object ms => exact h.elim
    | _ => exact Nat.le_refl 0
  | succ n ih =>
    cases v with
    | array vs => exact Nat.succ_le_succ (itemsDepth_le.2 fun w hw => ih (h w hw))
    | object ms => exact Nat.succ_le_succ (membersDepth_le.2 fun w hw => ih (h.2 w hw))
    | _ => exact Nat.zero_le _

/-- What can be read at some depth can be read at the depth to which it nests. -/
theorem Readable.within (h : v.Readable P m) (bound : v.depth ≤ n) : v.Readable P n := by
  induction m generalizing v n with
  | zero => exact h.of_depth_eq_zero (Nat.le_zero.1 h.depth_le) n
  | succ m ih =>
    cases v with
    | array vs =>
      obtain ⟨n, rfl⟩ := Nat.exists_eq_succ_of_ne_zero (Nat.ne_zero_of_lt bound)
      have items := itemsDepth_le.1 (Nat.le_of_succ_le_succ bound)
      exact fun w hw => ih (h w hw) (items w hw)
    | object ms =>
      obtain ⟨n, rfl⟩ := Nat.exists_eq_succ_of_ne_zero (Nat.ne_zero_of_lt bound)
      have members := membersDepth_le.1 (Nat.le_of_succ_le_succ bound)
      exact ⟨h.1, fun w hw => ih (h.2 w hw) (members w hw)⟩
    | _ => exact h.of_depth_eq_zero rfl n

theorem Readable.whole (h : v.Readable P n) (whole : v.isWhole = true) :
    v.Readable (fun _ => False) n := by
  have number {k : Number} (hk : k.Readable P) (whole : (Value.number k).isWhole = true) :
      k.Readable fun _ => False := by
    cases k with
    | integer i => exact hk
    | real x => cases whole
  induction n generalizing v with
  | zero =>
    cases v with
    | number k => exact number h whole
    | array vs => exact h
    | object ms => exact h
    | _ => trivial
  | succ n ih =>
    cases v with
    | number k => exact number h whole
    | array vs => exact fun w hw => ih (h w hw) (wholeItems_iff.1 whole w hw)
    | object ms => exact ⟨h.1, fun w hw => ih (h.2 w hw) (wholeMembers_iff.1 whole w hw)⟩
    | _ => trivial

/-- A member can be read one level less deep. -/
theorem Readable.get? {key : String} {w : Value} (h : v.Readable P (n + 1))
    (some : v.get? key = some w) : w.Readable P n := by
  cases v with
  | object ms =>
    obtain ⟨front, back, rfl, -⟩ := List.lookup_eq_some_iff.1 some
    exact h.2 _ (List.mem_append_right front List.mem_cons_self)
  | _ => cases some

theorem Readable.number_get? {key : String} {k : Number} (h : v.Readable P n)
    (some : v.get? key = some (.number k)) : k.Readable P := by
  cases n with
  | zero =>
    cases v with
    | object ms => exact h.elim
    | _ => cases some
  | succ n =>
    have readable := h.get? some
    cases n <;> exact readable

end Value
end ReplyPipeline.Json
