import Mathlib
import ReplyPipeline.Decimal.Binary

/-!
# Rounding to a binary format

`Format.round` finds the least exponent at which a quotient fits into a mantissa, rounds there, and
gives up exactly when the quotient comes within half a last place of the power of two beyond the
largest number. Rounding keeps the order. Both are said of the rational number that a numerator and
a denominator stand for.
-/
namespace ReplyPipeline.Decimal

/-! ## Halves to even -/

theorem roundHalfEven_le_of_lt {n d k : Nat} (hd : 0 < d) (h : 2 * n < (2 * k + 1) * d) :
    roundHalfEven n d ≤ k := by
  have split := Nat.div_add_mod n d
  have bound : n / d ≤ k := by
    by_contra above
    have more : (k + 1) * d ≤ n := (Nat.le_div_iff_mul_le hd).1 (Nat.not_le.1 above)
    nlinarith
  rcases Nat.lt_or_eq_of_le bound with less | same
  · unfold roundHalfEven
    simp only
    split_ifs <;> omega
  · rw [same] at split
    have low : 2 * (n % d) < d := by nlinarith
    simp only [roundHalfEven, low, if_true, bound]

/-- What is at least a half below the next whole number above an odd one rounds up to it. -/
theorem lt_roundHalfEven_of_le {n d k : Nat} (hd : 0 < d) (odd : k % 2 = 1)
    (h : (2 * k + 1) * d ≤ 2 * n) : k < roundHalfEven n d := by
  have split := Nat.div_add_mod n d
  have small := Nat.mod_lt n hd
  have bound : k ≤ n / d := by
    by_contra above
    have less : d * (n / d + 1) ≤ d * k := Nat.mul_le_mul_left d (Nat.not_le.1 above)
    nlinarith
  rcases Nat.lt_or_eq_of_le bound with less | same
  · unfold roundHalfEven
    simp only
    split_ifs <;> omega
  · have high : d ≤ 2 * (n % d) := by
      rw [← same] at split
      nlinarith
    unfold roundHalfEven
    simp only [← same]
    split_ifs <;> omega

theorem roundHalfEven_mono {n n' d d' : Nat} (hd : 0 < d) (hd' : 0 < d')
    (h : n * d' ≤ n' * d) : roundHalfEven n d ≤ roundHalfEven n' d' := by
  have floor : n / d ≤ n' / d' := by
    rw [Nat.le_div_iff_mul_le hd']
    refine Nat.le_of_mul_le_mul_right ?_ hd
    calc
      n / d * d' * d = n / d * d * d' := Nat.mul_right_comm ..
      _ ≤ n * d' := Nat.mul_le_mul_right d' (Nat.div_mul_le_self n d)
      _ ≤ n' * d := h
  have low : roundHalfEven n d ≤ n / d + 1 := by
    unfold roundHalfEven
    simp only
    split_ifs <;> omega
  have high : n' / d' ≤ roundHalfEven n' d' := by
    unfold roundHalfEven
    simp only
    split_ifs <;> omega
  rcases Nat.lt_or_eq_of_le floor with less | same
  · omega
  · have split := Nat.div_add_mod n d
    have split' := Nat.div_add_mod n' d'
    rw [← same] at split'
    have part : n % d * d' ≤ n' % d' * d := by nlinarith
    have tied : d < 2 * (n % d) → d' < 2 * (n' % d') := fun up => by nlinarith
    have even : d ≤ 2 * (n % d) → d' ≤ 2 * (n' % d') := fun up => by nlinarith
    unfold roundHalfEven
    simp only [← same]
    split_ifs <;> omega

/-! ## The exponent -/

def Binary.magnitude (x : Binary) : ℚ := x.mantissa * (2 : ℚ) ^ x.exponent

theorem Binary.magnitude_nonneg (x : Binary) : 0 ≤ x.magnitude :=
  mul_nonneg (Nat.cast_nonneg _) (zpow_pos two_pos _).le

theorem Binary.fraction_eq (x : Binary) :
    (x.fraction.1 : ℚ) / x.fraction.2 = x.magnitude ∧ 0 < x.fraction.2 := by
  unfold fraction magnitude
  cases x.exponent with
  | ofNat e => simp
  | negSucc e =>
    refine ⟨?_, Nat.two_pow_pos _⟩
    rw [zpow_negSucc, Nat.cast_pow, Nat.cast_ofNat, div_eq_mul_inv]

/-- A quotient to the nearest multiple of a power of two is a quotient to the nearest whole
number. -/
theorem scaled_eq (num : Nat) {den : Nat} (hd : 0 < den) (e : Int) :
    ∃ n d, 0 < d ∧ scaled num den e = roundHalfEven n d ∧
      (n : ℚ) / d * (2 : ℚ) ^ e = (num : ℚ) / den := by
  have nonzero : (den : ℚ) ≠ 0 := Nat.cast_ne_zero.2 hd.ne'
  cases e with
  | ofNat k =>
    refine ⟨num, den * 2 ^ k, Nat.mul_pos hd (Nat.two_pow_pos k), rfl, ?_⟩
    push_cast
    rw [Int.ofNat_eq_natCast, zpow_natCast]
    field_simp
  | negSucc k =>
    refine ⟨num * 2 ^ (k + 1), den, hd, rfl, ?_⟩
    push_cast
    rw [zpow_negSucc]
    field_simp

section Scaled

variable {num num' den den' k : Nat} {e : Int}

theorem scaled_le_of_lt (hd : 0 < den)
    (h : (num : ℚ) / den < (k + 1 / 2) * (2 : ℚ) ^ e) : scaled num den e ≤ k := by
  obtain ⟨n, d, hd', hs, same⟩ := scaled_eq num hd e
  rw [← same, mul_lt_mul_iff_left₀ (zpow_pos two_pos e),
    div_lt_iff₀ (Nat.cast_pos.2 hd')] at h
  rw [hs]
  refine roundHalfEven_le_of_lt hd' ?_
  have twice : (2 : ℚ) * n < (2 * k + 1) * d := by linarith
  exact_mod_cast twice

theorem lt_scaled_of_le (hd : 0 < den) (odd : k % 2 = 1)
    (h : (k + 1 / 2) * (2 : ℚ) ^ e ≤ (num : ℚ) / den) : k < scaled num den e := by
  obtain ⟨n, d, hd', hs, same⟩ := scaled_eq num hd e
  rw [← same, mul_le_mul_iff_left₀ (zpow_pos two_pos e),
    le_div_iff₀ (Nat.cast_pos.2 hd')] at h
  rw [hs]
  refine lt_roundHalfEven_of_le hd' odd ?_
  have twice : (2 * k + 1) * (d : ℚ) ≤ 2 * n := by linarith
  exact_mod_cast twice

theorem scaled_mono (hd : 0 < den) (hd' : 0 < den') (h : (num : ℚ) / den ≤ (num' : ℚ) / den') :
    scaled num den e ≤ scaled num' den' e := by
  obtain ⟨n, d, pos, hs, same⟩ := scaled_eq num hd e
  obtain ⟨n', d', pos', hs', same'⟩ := scaled_eq num' hd' e
  rw [← same, ← same', mul_le_mul_iff_left₀ (zpow_pos two_pos e),
    div_le_div_iff₀ (Nat.cast_pos.2 pos) (Nat.cast_pos.2 pos')] at h
  rw [hs, hs']
  exact roundHalfEven_mono pos pos' (by exact_mod_cast h)

theorem le_scaled (hd : 0 < den) (h : (k : ℚ) * (2 : ℚ) ^ e ≤ (num : ℚ) / den) :
    k ≤ scaled num den e := by
  obtain ⟨n, d, hd', hs, same⟩ := scaled_eq num hd e
  rw [← same, mul_le_mul_iff_left₀ (zpow_pos two_pos e),
    le_div_iff₀ (Nat.cast_pos.2 hd')] at h
  have whole : roundHalfEven k 1 = k := by simp [roundHalfEven, Nat.mod_one]
  rw [hs]
  calc
    k = roundHalfEven k 1 := whole.symm
    _ ≤ roundHalfEven n d := roundHalfEven_mono Nat.one_pos hd' (by
      rw [Nat.mul_one]
      exact_mod_cast h)

end Scaled

namespace Format

variable {f : Format} {num num' den den' : Nat}

/-- The quotient is less than the power of two beyond the mantissas, in units of `2 ^ e`. -/
def Fits (f : Format) (q : ℚ) (e : Int) : Prop := q < (2 : ℚ) ^ (f.precision : Int) * (2 : ℚ) ^ e

theorem Fits.mono {q : ℚ} {e e' : Int} (h : f.Fits q e) (he : e ≤ e') : f.Fits q e' := by
  refine lt_of_lt_of_le h ?_
  exact mul_le_mul_of_nonneg_left (zpow_le_zpow_right₀ one_le_two he) (zpow_pos two_pos _).le

theorem fits_iff (f : Format) (num : Nat) (hd : 0 < den) (e : Int) :
    f.fits num den e = true ↔ f.Fits ((num : ℚ) / den) e := by
  have pos : (0 : ℚ) < den := Nat.cast_pos.2 hd
  unfold Fits fits
  cases e with
  | ofNat k =>
    rw [decide_eq_true_iff, div_lt_iff₀ pos, Int.ofNat_eq_natCast, zpow_natCast, zpow_natCast,
      mul_assoc, mul_comm ((2 : ℚ) ^ k)]
    exact_mod_cast Iff.rfl
  | negSucc k =>
    rw [decide_eq_true_iff, div_lt_iff₀ pos, zpow_negSucc, zpow_natCast, mul_assoc,
      mul_comm _ (den : ℚ), ← mul_assoc, ← div_eq_mul_inv, lt_div_iff₀ (by positivity)]
    exact_mod_cast Iff.rfl

theorem log2_bounds {n : Nat} (h : 0 < n) :
    (2 : ℚ) ^ (Nat.log2 n : Int) ≤ n ∧ (n : ℚ) < (2 : ℚ) ^ ((Nat.log2 n : Int) + 1) := by
  constructor
  · rw [zpow_natCast]
    exact_mod_cast Nat.log2_self_le h.ne'
  · rw [← Nat.cast_succ, zpow_natCast]
    exact_mod_cast @Nat.lt_log2_self n

/-- The exponent at which a quotient about fits, by the lengths of its terms. -/
def guess (f : Format) (num den : Nat) : Int :=
  (Nat.log2 num : Int) - Nat.log2 den - f.precision

/-- One above the guess the quotient fits, and one below it does not. -/
theorem fits_around_guess (f : Format) (hn : 0 < num) (hd : 0 < den) :
    f.Fits ((num : ℚ) / den) (f.guess num den + 1) ∧
      ¬ f.Fits ((num : ℚ) / den) (f.guess num den - 1) := by
  have pos : (0 : ℚ) < den := Nat.cast_pos.2 hd
  obtain ⟨low, high⟩ := log2_bounds hn
  obtain ⟨low', high'⟩ := log2_bounds hd
  unfold Fits guess
  constructor
  · rw [← zpow_add₀ two_ne_zero, div_lt_iff₀ pos]
    calc
      (num : ℚ) < (2 : ℚ) ^ ((Nat.log2 num : Int) + 1) := high
      _ = (2 : ℚ) ^ ((f.precision : Int) +
            ((Nat.log2 num : Int) - Nat.log2 den - f.precision + 1)) *
          (2 : ℚ) ^ (Nat.log2 den : Int) := by
        rw [← zpow_add₀ two_ne_zero]
        congr 1
        omega
      _ ≤ _ := mul_le_mul_of_nonneg_left low' (zpow_pos two_pos _).le
  · rw [not_lt, ← zpow_add₀ two_ne_zero, le_div_iff₀ pos]
    calc
      (2 : ℚ) ^ ((f.precision : Int) +
            ((Nat.log2 num : Int) - Nat.log2 den - f.precision - 1)) * den ≤
          (2 : ℚ) ^ ((f.precision : Int) +
            ((Nat.log2 num : Int) - Nat.log2 den - f.precision - 1)) *
          (2 : ℚ) ^ ((Nat.log2 den : Int) + 1) :=
        mul_le_mul_of_nonneg_left high'.le (zpow_pos two_pos _).le
      _ = (2 : ℚ) ^ (Nat.log2 num : Int) := by
        rw [← zpow_add₀ two_ne_zero]
        congr 1
        omega
      _ ≤ num := low

/-- The least exponent of the format at which the quotient fits is the one that is taken. -/
theorem exponentFor_spec (f : Format) (hn : 0 < num) (hd : 0 < den) :
    f.minExponent ≤ f.exponentFor num den ∧
      f.Fits ((num : ℚ) / den) (f.exponentFor num den) ∧
      (f.minExponent < f.exponentFor num den →
        ¬ f.Fits ((num : ℚ) / den) (f.exponentFor num den - 1)) := by
  obtain ⟨next, before⟩ := f.fits_around_guess hn hd
  obtain ⟨e, taken, fits, least⟩ : ∃ e, f.exponentFor num den = max e f.minExponent ∧
      f.Fits ((num : ℚ) / den) e ∧ ¬ f.Fits ((num : ℚ) / den) (e - 1) := by
    by_cases here : f.Fits ((num : ℚ) / den) (f.guess num den)
    · exact ⟨_, congrArg (max · _) (if_pos ((f.fits_iff num hd _).2 here)), here, before⟩
    · refine ⟨f.guess num den + 1, congrArg (max · _) ?_, next, by rwa [Int.add_sub_cancel]⟩
      refine (if_neg (mt (f.fits_iff num hd _).1 here)).trans ?_
      exact if_pos ((f.fits_iff num hd _).2 next)
  rw [taken]
  refine ⟨Int.le_max_right .., fits.mono (Int.le_max_left ..), fun above => ?_⟩
  rwa [show max e f.minExponent = e by omega]

/-! ## The nearest number -/

/-- The number is one of the format. -/
structure Holds (f : Format) (x : Binary) : Prop where
  mantissa : x.mantissa < 2 ^ f.precision
  low : f.minExponent ≤ x.exponent
  high : x.exponent ≤ f.maxExponent

/-- A format that has numbers. -/
structure Proper (f : Format) : Prop where
  precision : 0 < f.precision
  exponents : f.minExponent ≤ f.maxExponent

theorem double_proper : double.Proper := ⟨by decide, by decide⟩

section Round

variable {negative negative' : Bool} {x y : Binary}

theorem scaled_le (f : Format) (hn : 0 < num) (hd : 0 < den) :
    scaled num den (f.exponentFor num den) ≤ 2 ^ f.precision := by
  obtain ⟨-, fits, -⟩ := f.exponentFor_spec hn hd
  refine scaled_le_of_lt hd (lt_trans fits ?_)
  refine mul_lt_mul_of_pos_right ?_ (zpow_pos two_pos _)
  rw [zpow_natCast]
  push_cast
  linarith

theorem two_pow_half {f : Format} (hf : f.Proper) :
    2 * (2 ^ f.precision / 2) = 2 ^ f.precision := by
  obtain ⟨k, hk⟩ := Nat.exists_eq_succ_of_ne_zero hf.precision.ne'
  rw [hk, Nat.pow_succ]
  omega

theorem magnitude_of_round (hf : f.Proper) (hn : 0 < num)
    (h : f.round negative num den = some x) :
    x.magnitude = scaled num den (f.exponentFor num den) *
      (2 : ℚ) ^ f.exponentFor num den := by
  unfold round at h
  rw [if_neg hn.ne'] at h
  simp only at h
  by_cases full : scaled num den (f.exponentFor num den) = 2 ^ f.precision
  · rw [if_pos full] at h
    simp only at h
    split at h
    · cases h
    · cases h
      have half : (2 : ℚ) * ((2 ^ f.precision / 2 : Nat) : ℚ) = ((2 ^ f.precision : Nat) : ℚ) := by
        exact_mod_cast two_pow_half hf
      unfold Binary.magnitude
      simp only
      rw [full, zpow_add_one₀ two_ne_zero, ← half]
      ring
  · rw [if_neg full] at h
    simp only at h
    split at h
    · cases h
    · cases h
      rfl

theorem holds_of_round (hf : f.Proper) (hd : 0 < den)
    (h : f.round negative num den = some x) : f.Holds x := by
  unfold round at h
  split at h
  · cases h
    exact ⟨Nat.two_pow_pos _, Int.le_refl _, hf.exponents⟩
  next hn =>
    have pos : 0 < num := Nat.pos_of_ne_zero hn
    obtain ⟨low, -, -⟩ := f.exponentFor_spec pos hd
    have bound := f.scaled_le pos hd
    have even := two_pow_half hf
    have positive := Nat.two_pow_pos f.precision
    by_cases full : scaled num den (f.exponentFor num den) = 2 ^ f.precision
    · simp only [if_pos full] at h
      split at h
      · cases h
      next reached =>
        cases h
        exact ⟨by simp only; omega, by simp only; omega, Int.not_lt.1 reached⟩
    · simp only [if_neg full] at h
      split at h
      · cases h
      next reached =>
        cases h
        exact ⟨by simp only; omega, low, Int.not_lt.1 reached⟩

/-- Rounding gives up where the exponent is beyond the largest one, or gets there by a carry. -/
theorem round_isSome_iff_exponent (f : Format) (hn : 0 < num) (hd : 0 < den) :
    (f.round negative num den).isSome = true ↔
      f.exponentFor num den < f.maxExponent ∨ f.exponentFor num den = f.maxExponent ∧
        scaled num den (f.exponentFor num den) ≤ 2 ^ f.precision - 1 := by
  have bound := f.scaled_le hn hd
  have positive := Nat.two_pow_pos f.precision
  unfold round
  rw [if_neg hn.ne']
  by_cases full : scaled num den (f.exponentFor num den) = 2 ^ f.precision
  · simp only [if_pos full]
    split
    · exact iff_of_false Bool.false_ne_true (by omega)
    · exact iff_of_true rfl (by omega)
  · simp only [if_neg full]
    split
    · exact iff_of_false Bool.false_ne_true (by omega)
    · exact iff_of_true rfl (by omega)

/-- Rounding gives up exactly half a last place below the power of two beyond the largest
number. -/
theorem round_isSome_iff (hf : f.Proper) (hd : 0 < den) :
    (f.round negative num den).isSome = true ↔
      (num : ℚ) / den < ((2 : ℚ) ^ f.precision - 1 / 2) * (2 : ℚ) ^ f.maxExponent := by
  have positive := Nat.two_pow_pos f.precision
  have one : (1 : ℚ) ≤ (2 : ℚ) ^ f.precision := one_le_pow₀ one_le_two
  have cast : ((2 ^ f.precision - 1 : Nat) : ℚ) + 1 / 2 = (2 : ℚ) ^ f.precision - 1 / 2 := by
    rw [Nat.cast_sub positive]
    push_cast
    ring
  rcases Nat.eq_zero_or_pos num with rfl | hn
  · rw [round, if_pos rfl, Nat.cast_zero, zero_div]
    refine iff_of_true rfl (mul_pos ?_ (zpow_pos two_pos _))
    linarith
  · obtain ⟨low, fits, least⟩ := f.exponentFor_spec hn hd
    rw [f.round_isSome_iff_exponent hn hd, ← cast]
    constructor
    · rintro (below | ⟨same, small⟩)
      · refine lt_of_lt_of_le (fits.mono (Int.le_sub_one_of_lt below)) ?_
        rw [zpow_sub_one₀ two_ne_zero, zpow_natCast, cast]
        have pos := zpow_pos (two_pos (α := ℚ)) f.maxExponent
        nlinarith
      · by_contra above
        have odd : (2 ^ f.precision - 1) % 2 = 1 := by
          have := two_pow_half hf
          omega
        have more := lt_scaled_of_le hd odd (not_lt.1 above)
        rw [same] at small
        omega
    · intro below
      have inside : f.Fits ((num : ℚ) / den) f.maxExponent := by
        refine lt_trans below ?_
        refine mul_lt_mul_of_pos_right ?_ (zpow_pos two_pos _)
        rw [zpow_natCast, cast]
        linarith
      have reached : f.exponentFor num den ≤ f.maxExponent := by
        by_contra above
        refine least ?_ (inside.mono ?_)
        · have := hf.exponents
          omega
        · omega
      rcases Int.lt_or_eq_of_le reached with below' | same
      · exact .inl below'
      · refine .inr ⟨same, ?_⟩
        rw [same]
        exact scaled_le_of_lt hd below

theorem magnitude_of_round_zero (h : f.round negative 0 den = some x) : x.magnitude = 0 := by
  cases h
  exact (congrArg (· * _) Nat.cast_zero).trans (zero_mul _)

/-- Where a coarser grid is used, the finer one has ended. -/
theorem magnitude_le_of_exponent_lt (hf : f.Proper) (hn : 0 < num) (hd : 0 < den)
    (hn' : 0 < num') (hd' : 0 < den')
    (less : f.exponentFor num den < f.exponentFor num' den') :
    (scaled num den (f.exponentFor num den) : ℚ) * (2 : ℚ) ^ f.exponentFor num den ≤
      (scaled num' den' (f.exponentFor num' den') : ℚ) * (2 : ℚ) ^ f.exponentFor num' den' := by
  obtain ⟨low, -, -⟩ := f.exponentFor_spec hn hd
  obtain ⟨-, -, least⟩ := f.exponentFor_spec hn' hd'
  have reached : (2 : ℚ) ^ (f.precision : Int) * (2 : ℚ) ^ (f.exponentFor num' den' - 1) ≤
      (num' : ℚ) / den' := not_lt.1 (least (by omega))
  have half : ((2 ^ f.precision / 2 : Nat) : ℚ) * (2 : ℚ) ^ f.exponentFor num' den' =
      (2 : ℚ) ^ (f.precision : Int) * (2 : ℚ) ^ (f.exponentFor num' den' - 1) := by
    have twice : (2 : ℚ) * ((2 ^ f.precision / 2 : Nat) : ℚ) = (2 : ℚ) ^ f.precision := by
      exact_mod_cast two_pow_half hf
    rw [zpow_sub_one₀ two_ne_zero, zpow_natCast, ← twice]
    ring
  have first : (2 ^ f.precision / 2 : Nat) ≤ scaled num' den' (f.exponentFor num' den') :=
    le_scaled hd' (by rw [half]; exact reached)
  calc
    (scaled num den (f.exponentFor num den) : ℚ) * (2 : ℚ) ^ f.exponentFor num den ≤
        ((2 ^ f.precision : Nat) : ℚ) * (2 : ℚ) ^ (f.exponentFor num' den' - 1) :=
      mul_le_mul (Nat.cast_le.2 (f.scaled_le hn hd))
        (zpow_le_zpow_right₀ one_le_two (by omega)) (zpow_pos two_pos _).le (Nat.cast_nonneg _)
    _ = ((2 ^ f.precision / 2 : Nat) : ℚ) * (2 : ℚ) ^ f.exponentFor num' den' := by
      rw [half, zpow_natCast, Nat.cast_pow, Nat.cast_ofNat]
    _ ≤ (scaled num' den' (f.exponentFor num' den') : ℚ) * (2 : ℚ) ^ f.exponentFor num' den' :=
      mul_le_mul_of_nonneg_right (Nat.cast_le.2 first) (zpow_pos two_pos _).le

theorem magnitude_round_mono (hf : f.Proper) (hd : 0 < den) (hd' : 0 < den')
    (hx : f.round negative num den = some x) (hy : f.round negative' num' den' = some y)
    (h : (num : ℚ) / den ≤ (num' : ℚ) / den') : x.magnitude ≤ y.magnitude := by
  rcases Nat.eq_zero_or_pos num with rfl | hn
  · rw [magnitude_of_round_zero hx]
    exact Binary.magnitude_nonneg y
  · have hn' : 0 < num' := by
      have pos : (0 : ℚ) < num / den := div_pos (Nat.cast_pos.2 hn) (Nat.cast_pos.2 hd)
      have pos' : (0 : ℚ) < num' / den' := lt_of_lt_of_le pos h
      rw [div_pos_iff_of_pos_right (Nat.cast_pos.2 hd')] at pos'
      exact Nat.cast_pos.1 pos'
    rw [magnitude_of_round hf hn hx, magnitude_of_round hf hn' hy]
    rcases lt_trichotomy (f.exponentFor num den) (f.exponentFor num' den') with less | same | more
    · exact magnitude_le_of_exponent_lt hf hn hd hn' hd' less
    · rw [same]
      exact mul_le_mul_of_nonneg_right (Nat.cast_le.2 (scaled_mono hd hd' h))
        (zpow_pos two_pos _).le
    · obtain ⟨-, -, least⟩ := f.exponentFor_spec hn hd
      obtain ⟨low, fits, -⟩ := f.exponentFor_spec hn' hd'
      have inside : f.Fits ((num : ℚ) / den) (f.exponentFor num' den') := lt_of_le_of_lt h fits
      exact absurd (inside.mono (by omega)) (least (by omega))

theorem round_isSome_of_le (hf : f.Proper) (hd : 0 < den) (hx : f.Holds x)
    (h : (num : ℚ) / den ≤ x.magnitude) : (f.round negative num den).isSome = true := by
  rw [round_isSome_iff hf hd]
  refine lt_of_le_of_lt h ?_
  have largest : ((2 ^ f.precision - 1 : Nat) : ℚ) < (2 : ℚ) ^ f.precision - 1 / 2 := by
    rw [Nat.cast_sub (Nat.two_pow_pos _)]
    push_cast
    linarith
  calc
    x.magnitude ≤ ((2 ^ f.precision - 1 : Nat) : ℚ) * (2 : ℚ) ^ f.maxExponent :=
      mul_le_mul (Nat.cast_le.2 (Nat.le_sub_one_of_lt hx.mantissa))
        (zpow_le_zpow_right₀ one_le_two hx.high) (zpow_pos two_pos _).le (Nat.cast_nonneg _)
    _ < _ := mul_lt_mul_of_pos_right largest (zpow_pos two_pos _)

end Round
end Format
end ReplyPipeline.Decimal
