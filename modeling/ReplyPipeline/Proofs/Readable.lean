import ReplyPipeline.Proofs.ValueText

/-!
# What a reader gives

Whatever a text is, a value that is read from it can be read again when it is written: its whole
numbers have 64 bits, its other numbers are of double precision, the keys of its objects stand in
order, and it nests no deeper than the reader let it.
-/
namespace ReplyPipeline.Json

open Decimal (Binary Format)

/-- Whatever a reader gives is as `P` says. -/
def Yields {α : Type} (read : Bytes → Except Fault (α × Bytes)) (P : α → Prop) : Prop :=
  ∀ bs a rest, read bs = .ok (a, rest) → P a

section Numbers

variable {bs rest : Bytes} {k : Number} {negative : Bool} {m : Nat} {e : Int}

theorem readable_of_realOfParts (h : realOfParts negative m e bs = .ok (k, rest)) :
    k.Readable Format.double.Holds := by
  unfold realOfParts at h
  split at h
  next x hx =>
    cases h
    exact Holds.signed (holds_of_ofParts hx)
  next => cases h

theorem readable_of_readExponent (h : readExponent negative m e bs = .ok (k, rest)) :
    k.Readable Format.double.Holds := by
  unfold readExponent at h
  generalize exponentSign bs = sign at h
  obtain ⟨down, digits⟩ := sign
  simp only at h
  split at h
  · cases h
  · split at h
    · cases h
    · split at h
      · exact readable_of_realOfParts h
      · split at h
        · cases h
        · cases h
          exact ⟨Nat.two_pow_pos 53, Int.le_refl _, Format.double_proper.exponents⟩

theorem readable_of_readFraction (h : readFraction negative m e bs = .ok (k, rest)) :
    k.Readable Format.double.Holds := by
  unfold readFraction at h
  simp only at h
  split at h
  · cases h
  · split at h
    · split at h
      · exact readable_of_readExponent h
      · exact readable_of_realOfParts h
    · exact readable_of_realOfParts h

theorem readable_of_readAfterDigits {digits : List Nat}
    (h : readAfterDigits negative digits bs = .ok (k, rest)) :
    k.Readable Format.double.Holds := by
  obtain ⟨small, -, -⟩ := appendDigits_le (Nat.two_pow_pos 64) digits
  have plain (h : (if (digits.length - (appendDigits 0 digits).2 != 0) = true then
        realOfParts negative (appendDigits 0 digits).1
          ((digits.length - (appendDigits 0 digits).2 : Nat) : Int) bs
      else if (!negative) = true then
        .ok (.integer (appendDigits 0 digits).1, bs)
      else if ((appendDigits 0 digits).1 == 0 ||
          decide (2 ^ 63 < (appendDigits 0 digits).1)) = true then
        realOfParts true (appendDigits 0 digits).1 0 bs
      else .ok (.integer (-((appendDigits 0 digits).1 : Int)), bs)) =
        (.ok (k, rest) : Except Fault (Number × Bytes))) : k.Readable Format.double.Holds := by
    split at h
    · exact readable_of_realOfParts h
    · split at h
      · cases h
        exact ⟨by omega, by omega⟩
      · split at h
        · exact readable_of_realOfParts h
        next inside =>
          simp only [Bool.or_eq_true, beq_iff_eq, decide_eq_true_eq, not_or] at inside
          cases h
          exact ⟨by omega, by omega⟩
  unfold readAfterDigits at h
  simp only at h
  split at h
  · split at h
    · exact readable_of_readFraction h
    · split at h
      · exact readable_of_readExponent h
      · exact plain h
  · exact plain h

theorem readable_of_readUnsigned (h : readUnsigned negative bs = .ok (k, rest)) :
    k.Readable Format.double.Holds := by
  unfold readUnsigned at h
  split at h
  · cases h
  · split at h
    · split at h
      · split at h
        · cases h
        · exact readable_of_readAfterDigits h
      · exact readable_of_readAfterDigits h
    · split at h
      · exact readable_of_readAfterDigits h
      · cases h

theorem yields_readNumber : Yields readNumber (Number.Readable Format.double.Holds) := by
  intro bs k rest h
  unfold readNumber at h
  split at h
  · split at h
    · exact readable_of_readUnsigned h
    · exact readable_of_readUnsigned h
  · exact readable_of_readUnsigned h

end Numbers

section Values

variable {α : Type} {read : Bytes → Except Fault (α × Bytes)} {P : α → Prop}

theorem yields_readItems (h : Yields read P) : Yields (readItems read) fun as => ∀ a ∈ as, P a := by
  have loop (fuel : Nat) (first : Bool) (reversed : List α) (before : ∀ a ∈ reversed, P a)
      (bs : Bytes) (as : List α) (rest : Bytes)
      (hr : readItemsFrom read fuel first reversed bs = .ok (as, rest)) : ∀ a ∈ as, P a := by
    induction fuel generalizing first reversed bs with
    | zero => cases hr
    | succ fuel ih =>
      unfold readItemsFrom at hr
      split at hr
      · cases hr
      · cases hr
        exact fun a ha => before a (List.mem_reverse.1 ha)
      · split at hr
        · cases hr
        next a rest' one =>
          refine ih false (a :: reversed) ?_ rest' hr
          exact List.forall_mem_cons.2 ⟨h _ _ _ one, before⟩
  exact fun bs as rest hr => loop _ true [] (fun a ha => by cases ha) bs as rest hr

theorem yields_readMembers (h : Yields read P) :
    Yields (readMembers read) fun ms => ∀ m ∈ ms, P m.2 := by
  have loop (fuel : Nat) (first : Bool) (reversed : List (String × α))
      (before : ∀ m ∈ reversed, P m.2) (bs : Bytes) (ms : List (String × α)) (rest : Bytes)
      (hr : readMembersFrom read fuel first reversed bs = .ok (ms, rest)) : ∀ m ∈ ms, P m.2 := by
    induction fuel generalizing first reversed bs with
    | zero => cases hr
    | succ fuel ih =>
      unfold readMembersFrom at hr
      split at hr
      · cases hr
      · cases hr
        exact fun m hm => before m (List.mem_reverse.1 hm)
      · split at hr
        · cases hr
        · split at hr
          · cases hr
          · split at hr
            · cases hr
            next a rest' one =>
              refine ih false (_ :: reversed) ?_ rest' hr
              exact List.forall_mem_cons.2 ⟨h _ _ _ one, before⟩
  exact fun bs ms rest hr => loop _ true [] (fun a ha => by cases ha) bs ms rest hr

theorem eq_ok_of_bind {ε β γ : Type} {x : Except ε β} {f : β → Except ε γ} {c : γ}
    (h : x >>= f = .ok c) : ∃ b, x = .ok b ∧ f b = .ok c := by
  cases x with
  | error e => cases h
  | ok b => exact ⟨b, rfl, h⟩

theorem eq_ok_of_mapError {ε ε' β : Type} {x : Except ε β} {f : ε → ε'} {b : β}
    (h : x.mapError f = .ok b) : x = .ok b := by
  cases x with
  | error e => cases h
  | ok b' => cases h; rfl

theorem eq_ok_of_toOption {ε β : Type} {x : Except ε β} {b : β} (h : x.toOption = some b) :
    x = .ok b := by
  cases x with
  | error e => cases h
  | ok b' => cases h; rfl

theorem eq_ok_of_map {β : Type} {x : Except Fault (α × Bytes)} {f : α → β} {b : β} {rest : Bytes}
    (h : x.map (fun p => (f p.1, p.2)) = .ok (b, rest)) :
    ∃ a, x = .ok (a, rest) ∧ b = f a := by
  cases x with
  | error _ => cases h
  | ok p =>
    obtain ⟨a, r⟩ := p
    cases h
    exact ⟨a, rfl, rfl⟩

theorem eq_ok_of_map_bytes {b : α} {x : Except Fault Bytes} {a : α} {rest : Bytes}
    (h : x.map (b, ·) = .ok (a, rest)) : a = b := by
  cases x with
  | error _ => cases h
  | ok r => cases h; rfl

theorem readable_of_readScalar {b : UInt8} {bs rest : Bytes} {v : Value}
    (h : readScalar b bs = .ok (v, rest)) (n : Nat) : v.Readable Format.double.Holds n := by
  unfold readScalar at h
  split at h
  · rw [eq_ok_of_map_bytes h]
    cases n <;> trivial
  · split at h
    · rw [eq_ok_of_map_bytes h]
      cases n <;> trivial
    · split at h
      · rw [eq_ok_of_map_bytes h]
        cases n <;> trivial
      · split at h
        · obtain ⟨s, -, rfl⟩ := eq_ok_of_map h
          cases n <;> trivial
        · split at h
          · obtain ⟨k, hk, rfl⟩ := eq_ok_of_map h
            cases n <;> exact yields_readNumber _ _ _ hk
          · cases h

/-- A value that was read can be read. -/
theorem yields_readValue (n : Nat) :
    Yields (readValue n) (Value.Readable Format.double.Holds n) := by
  induction n with
  | zero =>
    intro bs v rest h
    rw [readValue.eq_def] at h
    split at h
    · cases h
    · split at h
      · cases h
      · split at h
        · cases h
        · exact readable_of_readScalar h 0
  | succ n ih =>
    intro bs v rest h
    rw [readValue.eq_def] at h
    split at h
    · cases h
    · split at h
      · obtain ⟨vs, hvs, rfl⟩ := eq_ok_of_map h
        exact yields_readItems ih _ _ _ hvs
      · split at h
        · obtain ⟨ms, hms, rfl⟩ := eq_ok_of_map h
          have readable := yields_readMembers ih _ _ _ hms
          obtain ⟨ms', shape, sorted, among⟩ := sorted_ofMembers ms
          rw [shape]
          exact ⟨sorted, fun m hm => readable m (among m hm)⟩
        · exact readable_of_readScalar h (n + 1)

theorem eq_ok_of_run {read : Reader α} {text : Bytes} {a : α} (h : read.run text = .ok a) :
    ∃ rest, read nestingLimit text = .ok (a, rest) := by
  unfold Reader.run at h
  split at h
  · cases h
  next a' rest one =>
    split at h
    · cases h
      exact ⟨rest, one⟩
    · cases h

end Values
end ReplyPipeline.Json
