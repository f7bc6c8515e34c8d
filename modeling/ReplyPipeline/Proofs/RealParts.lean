import ReplyPipeline.Json.Lexeme
import ReplyPipeline.Proofs.Rounding

/-!
# From a mantissa and a power of ten to a number

The reader of JSON rounds a mantissa, rounds a power of ten, and rounds their product or quotient.
A quotient never runs over. A product does not if the exact one is at most `largestBelow`: this is
tried out for the greatest mantissa that each power of ten allows, and rounding keeps the order.
-/
namespace ReplyPipeline.Json

open Decimal (Binary Format)

/-- The greatest decimal that a number other than the largest is written with. -/
def largestBelow : Nat := (2 ^ 54 - 3) * 2 ^ 970

/-- The greatest mantissa of 64 bits whose multiple of a power of ten is within
`largestBelow`. -/
def largestMantissa (k : Nat) : Nat := min (2 ^ 64 - 1) (largestBelow / 10 ^ k)

/-- No power of ten makes the greatest mantissa run over. -/
theorem ofParts_largestMantissa : ∀ k < 309, (ofParts (largestMantissa k) k).isSome = true := by
  decide +kernel

section Parts

variable {m M k : Nat} {f t x : Binary}

theorem ofNat_isSome_of_le (h : m ≤ M) (done : (Format.double.ofNat M).isSome = true) :
    (Format.double.ofNat m).isSome = true := by
  rw [Format.ofNat, Format.round_isSome_iff Format.double_proper Nat.one_pos] at done ⊢
  refine lt_of_le_of_lt ?_ done
  rw [Nat.cast_one, div_one, div_one]
  exact Nat.cast_le.2 h

theorem ofNat_isSome (h : m < 2 ^ 64) : (Format.double.ofNat m).isSome = true :=
  ofNat_isSome_of_le (Nat.le_of_lt h) (by decide)

theorem tenTo_isSome_of_le {most : Nat} (h : k ≤ most) (done : (tenTo most).isSome = true) :
    (tenTo k).isSome = true :=
  ofNat_isSome_of_le (Nat.pow_le_pow_right (by omega) h) done

theorem tenTo_isSome (h : k ≤ 308) : (tenTo k).isSome = true :=
  tenTo_isSome_of_le h (by decide +kernel)

theorem holds_of_ofNat (h : Format.double.ofNat m = some f) : Format.double.Holds f :=
  Format.holds_of_round Format.double_proper Nat.one_pos h

theorem magnitude_ofNat_mono (h : m ≤ M) (hf : Format.double.ofNat m = some f)
    (hx : Format.double.ofNat M = some x) : f.magnitude ≤ x.magnitude := by
  refine Format.magnitude_round_mono Format.double_proper Nat.one_pos Nat.one_pos hf hx ?_
  rw [Nat.cast_one, div_one, div_one]
  exact Nat.cast_le.2 h

theorem one_le_magnitude_tenTo (h : tenTo k = some t) : 1 ≤ t.magnitude := by
  have one : Format.double.ofNat 1 = some ⟨false, 2 ^ 52, -52⟩ := by decide
  have least := magnitude_ofNat_mono (Nat.pow_pos (by omega)) one h
  refine le_trans (le_of_eq ?_) least
  norm_num [Binary.magnitude]

theorem mul_eq (f t : Binary) :
    ∃ negative num den, 0 < den ∧ Format.double.mul f t = Format.double.round negative num den ∧
      (num : ℚ) / den = f.magnitude * t.magnitude := by
  obtain ⟨hf, pos⟩ := f.fraction_eq
  obtain ⟨ht, pos'⟩ := t.fraction_eq
  refine ⟨f.negative != t.negative, f.fraction.1 * t.fraction.1, f.fraction.2 * t.fraction.2,
    Nat.mul_pos pos pos', rfl, ?_⟩
  rw [← hf, ← ht, Nat.cast_mul, Nat.cast_mul, mul_div_mul_comm]

theorem div_eq (f : Binary) (ht : 0 < t.magnitude) :
    ∃ negative num den, 0 < den ∧ Format.double.div f t = Format.double.round negative num den ∧
      (num : ℚ) / den = f.magnitude / t.magnitude := by
  obtain ⟨hf, pos⟩ := f.fraction_eq
  obtain ⟨ht', pos'⟩ := t.fraction_eq
  have positive : 0 < t.fraction.1 := by
    rw [← ht', div_pos_iff_of_pos_right (Nat.cast_pos.2 pos')] at ht
    exact Nat.cast_pos.1 ht
  refine ⟨f.negative != t.negative, f.fraction.1 * t.fraction.2, f.fraction.2 * t.fraction.1,
    Nat.mul_pos pos positive, rfl, ?_⟩
  rw [← hf, ← ht', Nat.cast_mul, Nat.cast_mul, div_div_div_eq]

/-- Dividing by a power of ten never runs over. -/
theorem div_isSome (hf : Format.double.Holds f) (ht : tenTo k = some t) :
    ∃ y, Format.double.div f t = some y ∧ Format.double.Holds y := by
  have large := one_le_magnitude_tenTo ht
  obtain ⟨negative, num, den, pos, eq, value⟩ := div_eq f (lt_of_lt_of_le one_pos large)
  have done : (Format.double.div f t).isSome = true := by
    rw [eq]
    refine Format.round_isSome_of_le Format.double_proper pos hf ?_
    rw [value]
    exact div_le_self f.magnitude_nonneg large
  obtain ⟨y, hy⟩ := Option.isSome_iff_exists.1 done
  exact ⟨y, hy, Format.holds_of_round Format.double_proper pos (eq ▸ hy)⟩

/-- A product runs over only if that of a greater number does. -/
theorem mul_isSome_of_le (h : f.magnitude ≤ x.magnitude)
    (hx : (Format.double.mul x t).isSome = true) :
    ∃ y, Format.double.mul f t = some y ∧ Format.double.Holds y := by
  obtain ⟨negative, num, den, pos, eq, value⟩ := mul_eq f t
  obtain ⟨negative', num', den', pos', eq', value'⟩ := mul_eq x t
  have done : (Format.double.mul f t).isSome = true := by
    rw [eq', Format.round_isSome_iff Format.double_proper pos', value'] at hx
    rw [eq, Format.round_isSome_iff Format.double_proper pos, value]
    refine lt_of_le_of_lt ?_ hx
    exact mul_le_mul_of_nonneg_right h t.magnitude_nonneg
  obtain ⟨y, hy⟩ := Option.isSome_iff_exists.1 done
  exact ⟨y, hy, Format.holds_of_round Format.double_proper pos (eq ▸ hy)⟩

theorem holds_of_ofParts {e : Int} (h : ofParts m e = some x) : Format.double.Holds x := by
  unfold ofParts at h
  obtain ⟨f, hf, h⟩ := Option.bind_eq_some_iff.1 h
  cases e with
  | ofNat k =>
    simp only at h
    split at h
    · obtain ⟨t, -, h⟩ := Option.bind_eq_some_iff.1 h
      obtain ⟨_, _, _, pos, eq, -⟩ := mul_eq f t
      exact Format.holds_of_round Format.double_proper pos (eq ▸ h)
    · split at h
      · cases h
        exact holds_of_ofNat hf
      · cases h
  | negSucc k =>
    simp only at h
    split at h
    · obtain ⟨t, ht, h⟩ := Option.bind_eq_some_iff.1 h
      obtain ⟨y, hy, holds⟩ := div_isSome (holds_of_ofNat hf) ht
      cases hy.symm.trans h
      exact holds
    · split at h
      · obtain ⟨t, ht, h⟩ := Option.bind_eq_some_iff.1 h
        obtain ⟨g, hg, h⟩ := Option.bind_eq_some_iff.1 h
        obtain ⟨u, hu, h⟩ := Option.bind_eq_some_iff.1 h
        obtain ⟨y, hy, holds⟩ := div_isSome (holds_of_ofNat hf) ht
        cases hy.symm.trans hg
        obtain ⟨z, hz, holds'⟩ := div_isSome holds hu
        cases hz.symm.trans h
        exact holds'
      · cases h
        exact ⟨by decide, by decide, by decide⟩

/-- A mantissa of 64 bits and a power of ten make a number if they are not too large together. -/
theorem ofParts_isSome {e : Int} (h : m < 2 ^ 64)
    (bound : ∀ k : Nat, e = k → m * 10 ^ k ≤ largestBelow) : (ofParts m e).isSome = true := by
  obtain ⟨f, hf⟩ := Option.isSome_iff_exists.1 (ofNat_isSome h)
  cases e with
  | ofNat k =>
    have small := bound k rfl
    by_cases inside : k ≤ 308
    · have least : m ≤ largestMantissa k :=
        Nat.le_min.2 ⟨Nat.le_sub_one_of_lt h, (Nat.le_div_iff_mul_le (Nat.pow_pos (by omega))).2 small⟩
      have whole := ofParts_largestMantissa k (by omega)
      obtain ⟨t, ht⟩ := Option.isSome_iff_exists.1 (tenTo_isSome inside)
      have greatest : largestMantissa k < 2 ^ 64 :=
        Nat.lt_of_le_of_lt (Nat.min_le_left ..) (by decide)
      obtain ⟨x, hx⟩ := Option.isSome_iff_exists.1 (ofNat_isSome greatest)
      have product : ofParts (largestMantissa k) k = Format.double.mul x t := by
        simp [ofParts, hx, ht, inside]
      rw [product] at whole
      obtain ⟨y, hy, -⟩ := mul_isSome_of_le (magnitude_ofNat_mono least hf hx) whole
      have here : ofParts m (.ofNat k) = some y := by
        simp [ofParts, hf, ht, inside, hy]
      rw [here]
      rfl
    · have zero : m = 0 := by
        by_contra nonzero
        have large : 10 ^ 309 ≤ m * 10 ^ k :=
          calc
            10 ^ 309 ≤ 10 ^ k := Nat.pow_le_pow_right (by omega) (by omega)
            _ ≤ m * 10 ^ k := Nat.le_mul_of_pos_left _ (Nat.pos_of_ne_zero nonzero)
        have small' : largestBelow < 10 ^ 309 := by decide +kernel
        omega
      subst zero
      cases hf
      simp [ofParts, inside, Format.ofNat, Format.round, Binary.isZero]
  | negSucc k =>
    have holds := holds_of_ofNat hf
    by_cases once : k + 1 ≤ 308
    · obtain ⟨t, ht⟩ := Option.isSome_iff_exists.1 (tenTo_isSome once)
      obtain ⟨y, hy, -⟩ := div_isSome holds ht
      simp [ofParts, hf, ht, once, hy]
    · by_cases twice : k + 1 ≤ 616
      · obtain ⟨t, ht⟩ := Option.isSome_iff_exists.1 (tenTo_isSome (Nat.le_refl 308))
        obtain ⟨u, hu⟩ := Option.isSome_iff_exists.1 (tenTo_isSome (k := k - 307) (by omega))
        obtain ⟨y, hy, holds'⟩ := div_isSome holds ht
        obtain ⟨z, hz, -⟩ := div_isSome holds' hu
        simp [ofParts, hf, ht, hu, once, twice, hy, hz]
      · simp [ofParts, hf, once, twice]

end Parts
end ReplyPipeline.Json
