import Mathlib.Algebra.Group.Even
import Mathlib.Algebra.Ring.Parity
import ReplyPipeline.Retry

/-!
# The doubling law of delays

By the law the delay after a number of failures is the base delay, doubled for every failure after
the first, in whole nanoseconds; where there is no such span it is the longest one, and no delay is
longer than the ceiling. `RetryPolicy.backoff_doubles_iff` says where a policy keeps the law. The
factor of the base delay is held to 32 bits before it is multiplied: from the 33rd failure on the
delay is the longest span even where the product is a span.
-/
namespace ReplyPipeline

namespace Span

/-- A number of nanoseconds, or those of the longest span if that is shorter. -/
def saturate (n : Nat) : Nat := if n < bound then n else bound - 1

theorem nanos_longest : longest.nanos = bound - 1 := rfl

theorem nanos_min (s t : Span) : (s.min t).nanos = Nat.min s.nanos t.nanos := by
  unfold Span.min
  split
  next shorter => exact (Nat.min_eq_right (Nat.le_of_lt shorter)).symm
  next longer => exact (Nat.min_eq_left (Nat.le_of_not_lt longer)).symm

theorem nanos_times?_getD (s : Span) (factor : Nat) :
    ((s.times? factor).getD longest).nanos = saturate (s.nanos * factor) := by
  unfold times? ofNanos? saturate
  split <;> rfl

end Span

namespace RetryPolicy

variable (p : RetryPolicy) (n : UInt32)

/-- A number of nanoseconds, lowered to the ceiling of the policy if it has one. -/
def lowered (nanos : Nat) : Nat :=
  match p.maxDelay with
  | some cap => min nanos cap.nanos
  | none => nanos

/-- The base delay, doubled for every failure after the first. -/
def product : Nat := p.baseDelay.nanos * 2 ^ (n.toNat - 1)

/-- The delay by the law. -/
def lawfulDelay : Nat := p.lowered (Span.saturate (p.product n))

theorem lowered_mono {a b : Nat} (h : a ≤ b) : p.lowered a ≤ p.lowered b := by
  unfold lowered
  cases p.maxDelay with
  | none => exact h
  | some cap => exact Nat.le_min.2 ⟨Nat.le_trans (Nat.min_le_left ..) h, Nat.min_le_right ..⟩

theorem lowered_eq_lowered_iff {a b : Nat} (less : a < b) :
    p.lowered b = p.lowered a ↔ ∃ cap ∈ p.maxDelay, cap.nanos ≤ a := by
  unfold lowered
  cases p.maxDelay with
  | none => simp [Nat.ne_of_gt less]
  | some cap =>
    simp only [Option.mem_def, Option.some.injEq, exists_eq_left', Nat.min_def]
    split <;> split <;> omega

/-- The factor is held to 32 bits, and then the product to the longest span. -/
theorem nanos_doubled :
    (p.doubled n).nanos =
      if n.toNat ≤ 32 then Span.saturate (p.product n) else Span.bound - 1 := by
  unfold doubled
  by_cases early : n.toNat ≤ 32
  · rw [if_pos early, if_pos (by omega), Span.nanos_times?_getD]
    rfl
  · rw [if_neg early, if_neg (by omega), Span.nanos_longest]

variable {n}

theorem nanos_backoff (failed : n ≠ 0) :
    (p.backoff n).nanos = p.lowered (p.doubled n).nanos := by
  unfold backoff lowered
  rw [if_neg failed]
  cases p.maxDelay with
  | none => rfl
  | some cap => exact Span.nanos_min ..

/-- A product with a factor beyond 32 bits is even, so it falls short of the longest span by more
than it could make up. -/
theorem product_lt_longest (late : 32 < n.toNat) (fits : p.product n < Span.bound) :
    p.product n < Span.bound - 1 := by
  have even : Even (p.product n) := by
    have factor : Even (2 ^ (n.toNat - 1)) := even_two.pow_of_ne_zero (by omega)
    exact factor.mul_left _
  have odd : ¬ Even (Span.bound - 1) := by decide
  have other : p.product n ≠ Span.bound - 1 := fun same => odd (same ▸ even)
  omega

/-- The delay after a failure is the lawful one exactly up to the 32nd failure, where the product is
no span, and where the ceiling is not above the product. Everywhere else it is the longest span,
lowered to the ceiling, in place of a shorter one. -/
theorem backoff_doubles_iff (failed : n ≠ 0) :
    ((p.backoff n).nanos = p.lawfulDelay n ↔
      n.toNat ≤ 32 ∨ Span.bound ≤ p.product n ∨
        ∃ cap ∈ p.maxDelay, cap.nanos ≤ p.product n) ∧
    ((p.backoff n).nanos ≠ p.lawfulDelay n →
      (p.backoff n).nanos = p.lowered (Span.bound - 1) ∧
        p.lawfulDelay n < (p.backoff n).nanos) := by
  rw [p.nanos_backoff failed, nanos_doubled, lawfulDelay]
  by_cases early : n.toNat ≤ 32
  · simp [early]
  by_cases fits : p.product n < Span.bound
  · have short := p.product_lt_longest (Nat.lt_of_not_le early) fits
    have lowers := p.lowered_eq_lowered_iff short
    rw [if_neg early, Span.saturate, if_pos fits, lowers]
    refine ⟨by simp [early, fits], fun apart => ⟨rfl, ?_⟩⟩
    exact Nat.lt_of_le_of_ne (p.lowered_mono (Nat.le_of_lt short)) apart.symm
  · simp [early, Span.saturate, fits, Nat.le_of_not_lt fits]

theorem backoff_doubles_iff_of_nanosecond :
    (RetryPolicy.mk 100 ⟨1, by decide⟩ none).lawfulDelay 33 = 2 ^ 32 ∧
      ((RetryPolicy.mk 100 ⟨1, by decide⟩ none).backoff 33).nanos = Span.bound - 1 := by
  have lawful : (RetryPolicy.mk 100 ⟨1, by decide⟩ none).lawfulDelay 33 = 2 ^ 32 := by decide
  obtain ⟨lawful_iff, otherwise⟩ := backoff_doubles_iff ⟨100, ⟨1, by decide⟩, none⟩
    (n := 33) (by decide)
  refine ⟨lawful, (otherwise fun same => ?_).1⟩
  rcases lawful_iff.1 same with early | saturated | ⟨cap, none, -⟩
  · exact absurd early (by decide)
  · exact absurd saturated (by decide)
  · cases none

/-- The law is not kept by every policy, and not even the delays of a policy without a base delay
are all zero. -/
theorem delays_not_all_doubled :
    (¬ ∀ (p : RetryPolicy) (n : UInt32), n ≠ 0 → (p.backoff n).nanos = p.lawfulDelay n) ∧
      ¬ ∀ (p : RetryPolicy) (n : UInt32), p.baseDelay = Span.zero → p.backoff n = Span.zero := by
  have zero : (RetryPolicy.mk 100 Span.zero none).backoff 33 ≠ Span.zero := by decide
  refine ⟨fun law => ?_, fun none => zero (none _ _ rfl)⟩
  have lawful := law ⟨100, Span.zero, none⟩ 33 (by decide)
  exact absurd lawful (by decide)

end RetryPolicy
end ReplyPipeline
