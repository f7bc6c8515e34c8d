import ReplyPipeline.Decimal.Shortest
import ReplyPipeline.Proofs.Rounding

/-!
# Bounds of the shortest decimal

The decimal that a number is written with is not zero unless the number is, has no more than
eighteen digits, and is not above the interval that rounds to the number. That it rounds to the
number is not needed here and not said.
-/
namespace ReplyPipeline.Decimal

/-! ## The leading digit -/

theorem digitCount_bounds {n : Nat} (h : 0 < n) :
    10 ^ (digitCount n - 1) ≤ n ∧ n < 10 ^ digitCount n := by
  have positive : 0 < digitCount n := Nat.length_toDigits_pos
  constructor
  · rcases Nat.lt_or_ge 1 (digitCount n) with more | one
    · by_contra below
      have short : digitCount n ≤ digitCount n - 1 :=
        (Nat.length_toDigits_le_iff (by omega) (by omega)).2 (Nat.not_le.1 below)
      omega
    · rw [show digitCount n - 1 = 0 by omega]
      exact h
  · exact (Nat.length_toDigits_le_iff (by omega) positive).1 (Nat.le_refl _)

theorem ten_zpow_pos (e : Int) : (0 : ℚ) < (10 : ℚ) ^ e := zpow_pos (by norm_num) e

theorem ten_zpow_add (e e' : Int) : (10 : ℚ) ^ (e + e') = (10 : ℚ) ^ e * (10 : ℚ) ^ e' :=
  zpow_add₀ (by norm_num) e e'

theorem ten_zpow_le {e e' : Int} (h : e ≤ e') : (10 : ℚ) ^ e ≤ (10 : ℚ) ^ e' :=
  zpow_le_zpow_right₀ (by norm_num) h

theorem ten_zpow_lt_iff {e e' : Int} : (10 : ℚ) ^ e < (10 : ℚ) ^ e' ↔ e < e' :=
  zpow_lt_zpow_iff_right₀ (by norm_num)

theorem ten_zpow_digitCount {n : Nat} (h : 0 < n) :
    (10 : ℚ) ^ ((digitCount n : Int) - 1) ≤ n ∧ (n : ℚ) < (10 : ℚ) ^ (digitCount n : Int) := by
  obtain ⟨low, high⟩ := digitCount_bounds h
  have positive : 0 < digitCount n := Nat.length_toDigits_pos
  constructor
  · rw [show (digitCount n : Int) - 1 = ((digitCount n - 1 : Nat) : Int) by omega, zpow_natCast]
    exact_mod_cast low
  · rw [zpow_natCast]
    exact_mod_cast high

section Leading

variable {num den : Nat}

/-- The leading digit of a quotient stands where `leadingExponent` says. -/
theorem leadingExponent_spec (hn : 0 < num) (hd : 0 < den) :
    (10 : ℚ) ^ leadingExponent num den ≤ (num : ℚ) / den ∧
      (num : ℚ) / den < (10 : ℚ) ^ (leadingExponent num den + 1) := by
  have pos : (0 : ℚ) < den := Nat.cast_pos.2 hd
  obtain ⟨low, high⟩ := ten_zpow_digitCount hn
  obtain ⟨low', high'⟩ := ten_zpow_digitCount hd
  have above : (num : ℚ) / den < (10 : ℚ) ^ ((digitCount num : Int) - digitCount den + 1) := by
    rw [div_lt_iff₀ pos]
    calc
      (num : ℚ) < (10 : ℚ) ^ (digitCount num : Int) := high
      _ = (10 : ℚ) ^ ((digitCount num : Int) - digitCount den + 1) *
          (10 : ℚ) ^ ((digitCount den : Int) - 1) := by
        rw [← ten_zpow_add]
        congr 1
        omega
      _ ≤ _ := mul_le_mul_of_nonneg_left low' (ten_zpow_pos _).le
  have below : (10 : ℚ) ^ ((digitCount num : Int) - digitCount den - 1) ≤ (num : ℚ) / den := by
    rw [le_div_iff₀ pos]
    calc
      (10 : ℚ) ^ ((digitCount num : Int) - digitCount den - 1) * den ≤
          (10 : ℚ) ^ ((digitCount num : Int) - digitCount den - 1) *
            (10 : ℚ) ^ (digitCount den : Int) :=
        mul_le_mul_of_nonneg_left high'.le (ten_zpow_pos _).le
      _ = (10 : ℚ) ^ ((digitCount num : Int) - 1) := by
        rw [← ten_zpow_add]
        congr 1
        omega
      _ ≤ num := low
  unfold leadingExponent
  generalize (digitCount num : Int) - digitCount den = guess at above below
  simp only
  cases guess with
  | ofNat k =>
    simp only [decide_eq_true_eq]
    split
    next reached =>
      refine ⟨?_, above⟩
      rw [Int.ofNat_eq_natCast, zpow_natCast, le_div_iff₀ pos, mul_comm]
      exact_mod_cast reached
    next missed =>
      refine ⟨below, ?_⟩
      rw [Int.sub_add_cancel, Int.ofNat_eq_natCast, zpow_natCast, div_lt_iff₀ pos, mul_comm]
      exact_mod_cast Nat.not_le.1 missed
  | negSucc k =>
    simp only [decide_eq_true_eq]
    split
    next reached =>
      refine ⟨?_, above⟩
      rw [zpow_negSucc, le_div_iff₀ pos, inv_mul_le_iff₀ (by positivity), mul_comm]
      exact_mod_cast reached
    next missed =>
      refine ⟨below, ?_⟩
      rw [Int.sub_add_cancel, zpow_negSucc, div_lt_iff₀ pos, lt_inv_mul_iff₀ (by positivity),
        mul_comm]
      exact_mod_cast Nat.not_le.1 missed

theorem gridFloor_spec (hd : 0 < den) (e : Int) :
    (gridFloor num den e : ℚ) * (10 : ℚ) ^ e ≤ (num : ℚ) / den ∧
      ((10 : ℚ) ^ e ≤ (num : ℚ) / den → 0 < gridFloor num den e) := by
  have pos : (0 : ℚ) < den := Nat.cast_pos.2 hd
  cases e with
  | ofNat k =>
    have scaled : 0 < den * 10 ^ k := Nat.mul_pos hd (Nat.pow_pos (by omega))
    unfold gridFloor
    rw [Int.ofNat_eq_natCast, zpow_natCast, le_div_iff₀ pos, le_div_iff₀ pos]
    constructor
    · have floor : num / (den * 10 ^ k) * (den * 10 ^ k) ≤ num := Nat.div_mul_le_self ..
      rw [mul_assoc, mul_comm ((10 : ℚ) ^ k)]
      exact_mod_cast floor
    · intro reached
      refine Nat.div_pos ?_ scaled
      rw [mul_comm]
      exact_mod_cast reached
  | negSucc k =>
    unfold gridFloor
    rw [zpow_negSucc, le_div_iff₀ pos, le_div_iff₀ pos, inv_mul_le_iff₀ (by positivity),
      mul_right_comm, mul_inv_le_iff₀ (by positivity)]
    constructor
    · have floor : num * 10 ^ (k + 1) / den * den ≤ num * 10 ^ (k + 1) := Nat.div_mul_le_self ..
      exact_mod_cast floor
    · intro reached
      refine Nat.div_pos ?_ hd
      rw [mul_comm num]
      exact_mod_cast reached

end Leading

/-! ## Candidates -/

def Digits.value (d : Digits) : ℚ := d.digits * (10 : ℚ) ^ d.exponent

theorem tenPower_spec (a : Nat) (e : Int) :
    ((tenPower a e).1 : ℚ) / (tenPower a e).2 = a * (10 : ℚ) ^ e ∧ 0 < (tenPower a e).2 := by
  cases e with
  | ofNat k => simp [tenPower]
  | negSucc k =>
    refine ⟨?_, Nat.pow_pos (by omega)⟩
    rw [tenPower, zpow_negSucc, Nat.cast_pow, Nat.cast_ofNat, div_eq_mul_inv]

theorem Interval.value_le_of_contains {i : Interval} {e : Int} {d : Digits}
    (h : i.contains e d = true) : d.value ≤ (i.upper : ℚ) / 4 * (2 : ℚ) ^ e := by
  obtain ⟨value, pos⟩ := tenPower_spec d.digits d.exponent
  have pos' : (0 : ℚ) < (tenPower d.digits d.exponent).2 := Nat.cast_pos.2 pos
  unfold Digits.value
  rw [← value, div_le_iff₀ pos']
  unfold contains at h
  cases e with
  | ofNat k =>
    have bound : (tenPower d.digits d.exponent).1 * 4 ≤
        i.upper * 2 ^ k * (tenPower d.digits d.exponent).2 := by
      simp only at h
      split at h <;> simp only [Bool.and_eq_true, decide_eq_true_eq] at h <;> omega
    rw [Int.ofNat_eq_natCast, zpow_natCast]
    have cast : ((tenPower d.digits d.exponent).1 : ℚ) * 4 ≤
        i.upper * 2 ^ k * (tenPower d.digits d.exponent).2 := by exact_mod_cast bound
    linarith
  | negSucc k =>
    have bound : (tenPower d.digits d.exponent).1 * (4 * 2 ^ (k + 1)) ≤
        i.upper * 1 * (tenPower d.digits d.exponent).2 := by
      simp only at h
      split at h <;> simp only [Bool.and_eq_true, decide_eq_true_eq] at h <;> omega
    have cast : ((tenPower d.digits d.exponent).1 : ℚ) * (4 * 2 ^ (k + 1)) ≤
        i.upper * 1 * (tenPower d.digits d.exponent).2 := by exact_mod_cast bound
    rw [zpow_negSucc, mul_right_comm, ← div_eq_mul_inv, le_div_iff₀ (by positivity)]
    linarith

/-- What is asked of the decimal that a number is written with: `last` is the place of its last
digit at most, and `bound` is a bound of its value. -/
structure Digits.Within (d : Digits) (last : Int) (bound : ℚ) : Prop where
  positive : 0 < d.digits
  place : last ≤ d.exponent
  value : d.value ≤ bound

section Search

variable {i : Interval} {e place : Int} {num den : Nat} {bound : ℚ}

theorem onGrid_within {d : Digits} (upper : (i.upper : ℚ) / 4 * (2 : ℚ) ^ e ≤ bound)
    (h : onGrid i e num den place = some d) : d.Within place bound := by
  have low (inside : (i.contains e ⟨gridFloor num den place, place⟩ &&
      gridFloor num den place != 0) = true) :
      Digits.Within ⟨gridFloor num den place, place⟩ place bound := by
    obtain ⟨inside, nonzero⟩ := Bool.and_eq_true_iff.1 inside
    exact ⟨Nat.pos_of_ne_zero (bne_iff_ne.1 nonzero), Int.le_refl _,
      (Interval.value_le_of_contains inside).trans upper⟩
  have high (inside : i.contains e ⟨gridFloor num den place + 1, place⟩ = true) :
      Digits.Within ⟨gridFloor num den place + 1, place⟩ place bound :=
    ⟨Nat.succ_pos _, Int.le_refl _, (Interval.value_le_of_contains inside).trans upper⟩
  unfold onGrid at h
  simp only at h
  split at h
  next inside inside' =>
    cases h
    unfold nearer
    simp only
    split
    · exact low inside
    · split
      · exact high inside'
      · split
        · exact low inside
        · exact high inside'
  next inside _ =>
    cases h
    exact low inside
  next _ inside' =>
    cases h
    exact high inside'
  next => cases h

theorem searchGrids_within (hd : 0 < den) (upper : (i.upper : ℚ) / 4 * (2 : ℚ) ^ e ≤ bound)
    (whole : (num : ℚ) / den ≤ bound) {tries : Nat}
    (reached : (10 : ℚ) ^ (place - tries) ≤ (num : ℚ) / den) :
    (searchGrids i e num den tries place).Within (place - tries) bound := by
  induction tries generalizing place with
  | zero =>
    obtain ⟨below, positive⟩ :
        (gridFloor num den place : ℚ) * (10 : ℚ) ^ place ≤ (num : ℚ) / den ∧ _ :=
      gridFloor_spec hd place
    rw [Nat.cast_zero, Int.sub_zero] at reached ⊢
    exact ⟨positive reached, Int.le_refl _, below.trans whole⟩
  | succ tries ih =>
    unfold searchGrids
    split
    next d found =>
      obtain ⟨positive, last, value⟩ := onGrid_within upper found
      exact ⟨positive, by omega, value⟩
    next =>
      have same : place - 1 - (tries : Int) = place - ((tries + 1 : Nat) : Int) := by omega
      rw [← same] at reached ⊢
      exact ih reached

theorem Digits.Within.trimZeros {d : Digits} {last : Int} (h : d.Within last bound) (fuel : Nat) :
    (d.trimZeros fuel).Within last bound := by
  induction fuel generalizing d with
  | zero => exact h
  | succ fuel ih =>
    unfold Digits.trimZeros
    split
    next zero =>
      simp only [Bool.and_eq_true, bne_iff_ne, beq_iff_eq] at zero
      obtain ⟨positive, place, value⟩ := h
      refine ih ⟨by simp only; omega, by simp only; omega, ?_⟩
      have tens : (d.digits : ℚ) = ((d.digits / 10 : Nat) : ℚ) * 10 := by
        exact_mod_cast (Nat.div_mul_cancel (Nat.dvd_of_mod_eq_zero zero.2)).symm
      unfold Digits.value at value ⊢
      simp only
      rw [tens, mul_assoc] at value
      rwa [ten_zpow_add, zpow_one, mul_comm ((10 : ℚ) ^ d.exponent)]
    next => exact h

end Search

theorem Binary.fraction_pos (x : Binary) (h : x.mantissa ≠ 0) : 0 < x.fraction.1 := by
  unfold fraction
  cases x.exponent with
  | ofNat e => exact Nat.mul_pos (Nat.pos_of_ne_zero h) (Nat.two_pow_pos e)
  | negSucc e => exact Nat.pos_of_ne_zero h

/-- The upper end of the interval that rounds to a number. -/
def Binary.ceiling (x : Binary) : ℚ := (x.mantissa + 1 / 2) * (2 : ℚ) ^ x.exponent

theorem Binary.magnitude_le_ceiling (x : Binary) : x.magnitude ≤ x.ceiling :=
  mul_le_mul_of_nonneg_right (by linarith) (zpow_pos two_pos _).le

theorem Format.shortest_within (f : Format) {x : Binary} (h : x.mantissa ≠ 0) :
    (f.shortest x).Within (leadingExponent x.fraction.1 x.fraction.2 - 17) x.ceiling := by
  obtain ⟨value, hd⟩ := x.fraction_eq
  have nonzero : x.isZero = false := beq_eq_false_iff_ne.2 h
  have hn := x.fraction_pos h
  unfold Format.shortest
  simp only [nonzero, Bool.false_eq_true, if_false]
  refine Digits.Within.trimZeros (searchGrids_within hd ?_ ?_ ?_) 20
  · refine le_of_eq ?_
    unfold Format.interval Binary.ceiling
    push_cast
    ring
  · rw [value]
    exact x.magnitude_le_ceiling
  · exact (ten_zpow_le (by omega)).trans (leadingExponent_spec hn hd).1

end ReplyPipeline.Decimal
