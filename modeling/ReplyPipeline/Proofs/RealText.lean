import ReplyPipeline.Json.Printer
import ReplyPipeline.Proofs.Numerals
import ReplyPipeline.Proofs.RealParts
import ReplyPipeline.Proofs.ShortestDigits

/-!
# Numbers of double precision in JSON

A number of double precision that is written is read as one again. It need not be the same, but it
is never out of range: the largest number is written `1.7976931348623157e+308`, and that text is
read without running over; every other number is at most `largestBelow` when it is written.
-/
namespace ReplyPipeline.Json

open Decimal (Binary Digits Format IsNumeral digitsOf appended natText)
open Text.Utf8 (encode)

/-! ## From a text to the parts -/

section Texts

variable {cs fr : List Char} {rest : Bytes} {c : Char} {m : Nat} {e : Int}

theorem ends_nil : Ends [] := fun _ h => by cases h

theorem endsDigits_cons {b : UInt8} (h : isDigit b = false) (bs : Bytes) : EndsDigits (b :: bs) := by
  intro b' hb
  cases hb
  exact h

theorem readFraction_encode (negative : Bool) (m : Nat) (e : Int) (h : IsNumeral cs)
    (some : cs ≠ []) (ends : Ends rest) :
    readFraction negative m e (encode cs ++ rest) =
      realOfParts negative (appendDigits m (digitsOf cs)).1
        (e - (appendDigits m (digitsOf cs)).2) rest := by
  have nonempty : (digitsOf cs).isEmpty = false := by
    rw [List.isEmpty_eq_false_iff]
    exact mt List.map_eq_nil_iff.1 some
  unfold readFraction
  rw [takeDigits_encode h ends.digits]
  simp only [nonempty, Bool.false_eq_true, if_false]
  cases rest with
  | nil => rfl
  | cons b bs =>
    obtain ⟨-, -, small, large⟩ := ends b rfl
    simp only [beq_eq_false_iff_ne.2 small, beq_eq_false_iff_ne.2 large, Bool.or_false,
      Bool.false_eq_true, if_false]

theorem readFraction_exponent (negative : Bool) (m : Nat) (e : Int) (h : IsNumeral cs)
    (some : cs ≠ []) (bs : Bytes) :
    readFraction negative m e (encode cs ++ octet 'e' :: bs) =
      readExponent negative (appendDigits m (digitsOf cs)).1
        (e - (appendDigits m (digitsOf cs)).2) bs := by
  have nonempty : (digitsOf cs).isEmpty = false := by
    rw [List.isEmpty_eq_false_iff]
    exact mt List.map_eq_nil_iff.1 some
  have letter : isDigit (octet 'e') = false := by decide
  unfold readFraction
  rw [takeDigits_encode h (endsDigits_cons letter bs)]
  simp only [nonempty, Bool.false_eq_true, if_false, beq_self_eq_true, Bool.true_or, if_true]

theorem readAfterDigits_point (negative : Bool) (ds : List Nat) (bs : Bytes) :
    readAfterDigits negative ds (octet '.' :: bs) =
      readFraction negative (appendDigits 0 ds).1 ((ds.length - (appendDigits 0 ds).2 : Nat) : Int)
        bs := by
  simp only [readAfterDigits, beq_self_eq_true, if_true]

theorem readAfterDigits_exponent (negative : Bool) (ds : List Nat) (bs : Bytes) :
    readAfterDigits negative ds (octet 'e' :: bs) =
      readExponent negative (appendDigits 0 ds).1 ((ds.length - (appendDigits 0 ds).2 : Nat) : Int)
        bs := by
  have point : (octet 'e' == octet '.') = false := by decide
  simp only [readAfterDigits, point, Bool.false_eq_true, if_false, beq_self_eq_true, Bool.true_or,
    if_true]

theorem readExponentDigits_encode {n : Nat} (h : IsNumeral cs) (ends : EndsDigits rest)
    (small : appended n (digitsOf cs) < 2 ^ 31) :
    readExponentDigits n (encode cs ++ rest) = (appended n (digitsOf cs), rest, none) := by
  induction cs generalizing n with
  | nil =>
    cases rest with
    | nil => rfl
    | cons b bs =>
      rw [Text.Utf8.encode_nil, List.nil_append, readExponentDigits]
      simp only [ends b rfl, Bool.false_eq_true, if_false]
      rfl
  | cons c cs ih =>
    obtain ⟨hc, hcs⟩ := h.of_cons
    obtain ⟨octets, digit, value, -⟩ := encode_digit hc
    have bound : n * 10 + (c.toNat - 48) < 2 ^ 31 :=
      Nat.lt_of_le_of_lt (Decimal.le_appended _ (digitsOf cs)) small
    rw [Text.Utf8.encode_cons, octets, List.append_assoc, List.singleton_append,
      readExponentDigits]
    simp only [digit, if_true, value, bound]
    exact ih hcs small

theorem readExponent_encode (negative : Bool) (m : Nat) (e : Int) {shift : Int}
    (small : shift.natAbs < 2 ^ 31) (ends : EndsDigits rest) :
    readExponent negative m e (octet (if shift < 0 then '-' else '+') ::
        (encode (natText shift.natAbs) ++ rest)) = realOfParts negative m (e + shift) rest := by
  have numeral := Decimal.isNumeral_natText shift.natAbs
  have digits : readExponentDigits 0 (encode (natText shift.natAbs) ++ rest) =
      (shift.natAbs, rest, none) := by
    have value := Decimal.appended_digitsOf_natText shift.natAbs
    rw [readExponentDigits_encode numeral ends (by rwa [value]), value]
  obtain ⟨b, bs, shape, digit⟩ : ∃ b bs, encode (natText shift.natAbs) ++ rest = b :: bs ∧
      isDigit b = true := by
    cases hc : natText shift.natAbs with
    | nil => exact absurd hc Nat.toDigits_ne_nil
    | cons c cs =>
      rw [hc] at numeral
      obtain ⟨octets, digit, -, -⟩ := encode_digit numeral.of_cons.1
      exact ⟨octet c, encode cs ++ rest, by rw [Text.Utf8.encode_cons, octets]; rfl, digit⟩
  rw [shape] at digits ⊢
  unfold readExponent
  have plus : (octet '-' == octet '+') = false := by decide
  by_cases below : shift < 0
  · simp only [exponentSign, below, if_true, plus, Bool.false_eq_true, if_false,
      beq_self_eq_true, digit, Bool.not_true, digits]
    congr 1
    omega
  · simp only [exponentSign, below, if_false, beq_self_eq_true, if_true, digit, Bool.not_true,
      Bool.false_eq_true, digits]
    congr 1
    omega

theorem readUnsigned_pointed (negative : Bool) (h : IsNumeral (c :: cs))
    (leading : c = '0' → cs = []) (h' : IsNumeral fr) (some : fr ≠ []) :
    ∃ (m : Nat) (e : Int), m < 2 ^ 64 ∧ e ≤ (c :: cs).length ∧ ∀ rest, Ends rest →
      readUnsigned negative (encode (c :: cs ++ '.' :: fr) ++ rest) =
        realOfParts negative m e rest := by
  obtain ⟨small, -, -⟩ := appendDigits_le (Nat.two_pow_pos 64) (digitsOf (c :: cs))
  obtain ⟨small', -, -⟩ := appendDigits_le small (digitsOf fr)
  refine ⟨_, ((digitsOf (c :: cs)).length - (appendDigits 0 (digitsOf (c :: cs))).2 : Nat) -
    (appendDigits (appendDigits 0 (digitsOf (c :: cs))).1 (digitsOf fr)).2, small', ?_,
    fun rest ends => ?_⟩
  · have length : (digitsOf (c :: cs)).length = (c :: cs).length := List.length_map _
    omega
  · have point : isDigit (octet '.') = false := by decide
    have shape : encode (c :: cs ++ '.' :: fr) ++ rest =
        encode (c :: cs) ++ octet '.' :: (encode fr ++ rest) := by
      rw [Text.Utf8.encode_append, List.append_assoc]
      rfl
    rw [shape, readUnsigned_encode negative h leading (endsDigits_cons point _),
      readAfterDigits_point, readFraction_encode negative _ _ h' some ends]

/-- Digits, a point, and digits again. A zero stands first only if it stands alone. -/
inductive IsPointed : List Char → Nat → Prop
  | mk {c : Char} {cs fr : List Char} : IsNumeral (c :: cs) → (c = '0' → cs = []) →
      IsNumeral fr → fr ≠ [] → IsPointed (c :: cs ++ '.' :: fr) (c :: cs).length

theorem natText_leading (n : Nat) :
    ∃ c cs, natText n = c :: cs ∧ (c = '0' → cs = [] ∧ n = 0) := by
  rcases Nat.eq_zero_or_pos n with rfl | positive
  · exact ⟨'0', [], rfl, fun _ => ⟨rfl, rfl⟩⟩
  · obtain ⟨c, cs, hc, nonzero⟩ := Decimal.natText_eq_cons positive
    exact ⟨c, cs, hc, fun zero => absurd zero nonzero⟩

theorem positional_ofNat {n e : Nat} (h : 0 < n ∨ e = 0) :
    IsPointed (Decimal.positional true ⟨n, .ofNat e⟩) (Decimal.digitCount n + e) := by
  obtain ⟨c, cs, hc, leading⟩ := natText_leading n
  have numeral := Decimal.isNumeral_natText n
  have count : Decimal.digitCount n = cs.length + 1 := congrArg List.length hc
  rw [hc] at numeral
  have whole : IsNumeral (c :: (cs ++ List.replicate e '0')) :=
    numeral.append (Decimal.isNumeral_replicate e)
  have alone : c = '0' → cs ++ List.replicate e '0' = [] := by
    intro zero
    obtain ⟨none, rfl⟩ := leading zero
    obtain rfl : e = 0 := h.resolve_left (Nat.lt_irrefl 0)
    rw [none]
    rfl
  have shape : Decimal.positional true ⟨n, .ofNat e⟩ =
      c :: (cs ++ List.replicate e '0') ++ '.' :: natText 0 := by
    simp only [Decimal.positional, hc, if_true, List.cons_append]
    rfl
  have length : Decimal.digitCount n + e = (c :: (cs ++ List.replicate e '0')).length := by
    rw [count, List.length_cons, List.length_append, List.length_replicate]
    omega
  rw [shape, length]
  exact .mk whole alone (Decimal.isNumeral_natText 0) Nat.toDigits_ne_nil

theorem positional_inside {n e : Nat} (positive : 0 < n) (inside : e + 1 < Decimal.digitCount n) :
    IsPointed (Decimal.positional true ⟨n, .negSucc e⟩) (Decimal.digitCount n - (e + 1)) := by
  obtain ⟨c, cs, hc, nonzero⟩ := Decimal.natText_eq_cons positive
  have numeral := Decimal.isNumeral_natText n
  have count : Decimal.digitCount n = cs.length + 1 := congrArg List.length hc
  rw [hc] at numeral
  obtain ⟨k, hk⟩ : ∃ k, Decimal.digitCount n - (e + 1) = k + 1 :=
    ⟨Decimal.digitCount n - (e + 1) - 1, by omega⟩
  have shape : Decimal.positional true ⟨n, .negSucc e⟩ = c :: cs.take k ++ '.' :: cs.drop k := by
    have inside' : e + 1 < (c :: cs).length := by rwa [List.length_cons, ← count]
    have hk' : (c :: cs).length - (e + 1) = k + 1 := by rwa [List.length_cons, ← count]
    simp only [Decimal.positional, hc, if_pos inside', hk', List.take_succ_cons,
      List.drop_succ_cons]
  have front : IsNumeral (c :: cs.take k) := by
    intro d hd
    rcases List.mem_cons.1 hd with rfl | hd
    · exact numeral d List.mem_cons_self
    · exact numeral d (List.mem_cons_of_mem c (List.mem_of_mem_take hd))
  have back : IsNumeral (cs.drop k) := fun d hd =>
    numeral d (List.mem_cons_of_mem c (List.mem_of_mem_drop hd))
  have some : cs.drop k ≠ [] := by
    rw [ne_eq, List.drop_eq_nil_iff, Nat.not_le]
    omega
  have length : Decimal.digitCount n - (e + 1) = (c :: cs.take k).length := by
    rw [hk, List.length_cons, List.length_take_of_le (by omega)]
  rw [shape, length]
  exact .mk front (fun zero => absurd zero nonzero) back some

theorem positional_before {n e : Nat} (before : ¬ e + 1 < Decimal.digitCount n) :
    IsPointed (Decimal.positional true ⟨n, .negSucc e⟩) 1 := by
  have numeral := (Decimal.isNumeral_replicate (e + 1 - Decimal.digitCount n)).append
    (Decimal.isNumeral_natText n)
  have shape : Decimal.positional true ⟨n, .negSucc e⟩ =
      natText 0 ++ '.' :: (List.replicate (e + 1 - Decimal.digitCount n) '0' ++ natText n) := by
    unfold Decimal.digitCount at before ⊢
    simp only [Decimal.positional, if_neg before]
    rfl
  rw [shape]
  exact .mk (Decimal.isNumeral_natText 0) (fun _ => rfl) numeral
    (List.append_ne_nil_of_right_ne_nil _ Nat.toDigits_ne_nil)

/-- Positional notation, unless there are too many digits before the point. -/
theorem readUnsigned_positional (negative : Bool) {d : Digits} (h : 0 < d.digits ∨ d.exponent = 0)
    (short : d.exponent + (Decimal.digitCount d.digits - 1 : Nat) ≤ 15) :
    ∃ (m : Nat) (e : Int), m < 2 ^ 64 ∧ e ≤ 16 ∧ ∀ rest, Ends rest →
      readUnsigned negative (encode (Decimal.positional true d) ++ rest) =
        realOfParts negative m e rest := by
  obtain ⟨digits, exponent⟩ := d
  obtain ⟨front, pointed, bound⟩ : ∃ front,
      IsPointed (Decimal.positional true ⟨digits, exponent⟩) front ∧ front ≤ 16 := by
    have count : 0 < Decimal.digitCount digits := Nat.length_toDigits_pos
    cases exponent with
    | ofNat e =>
      refine ⟨_, positional_ofNat (h.imp_right Int.ofNat.inj), ?_⟩
      have start : Int.ofNat e = (e : Int) := rfl
      simp only at short
      omega
    | negSucc e =>
      have positive : 0 < digits := h.resolve_right nofun
      by_cases inside : e + 1 < Decimal.digitCount digits
      · refine ⟨_, positional_inside positive inside, ?_⟩
        have start : Int.negSucc e = -((e : Int) + 1) := rfl
        simp only at short
        omega
      · exact ⟨1, positional_before inside, by decide⟩
  generalize Decimal.positional true ⟨digits, exponent⟩ = text at pointed ⊢
  cases pointed with
  | mk numeral leading numeral' some =>
    obtain ⟨m, k, small, most, reads⟩ :=
      readUnsigned_pointed negative numeral leading numeral' some
    exact ⟨m, k, small, Int.le_trans most (Int.ofNat_le.2 bound), reads⟩

theorem appendDigits_first (hc : c.isDigit = true) :
    appendDigits 0 (digitsOf [c]) = (c.toNat - 48, 1) := by
  obtain ⟨low, high⟩ := Decimal.toNat_of_isDigit hc
  rw [appendDigits_of_lt]
  · simp [appended, digitsOf]
  · simp only [appended, digitsOf, List.map_cons, List.map_nil, List.foldl_cons, List.foldl_nil]
    omega

theorem appendDigits_others (value : appended 0 (digitsOf (c :: cs)) = m) (small : m < 2 ^ 64) :
    appendDigits (c.toNat - 48) (digitsOf cs) = (m, cs.length) := by
  have total : appended (c.toNat - 48) (digitsOf cs) = m := by
    rw [← value]
    simp [appended, digitsOf]
  rw [appendDigits_of_lt (by rwa [total]), total]
  exact congrArg _ (List.length_map _)

theorem encode_exponent (cs : List Char) (shift : Int) (rest : Bytes) :
    encode (cs ++ 'e' :: (if shift < 0 then '-' else '+') :: natText shift.natAbs) ++ rest =
      encode cs ++ octet 'e' :: octet (if shift < 0 then '-' else '+') ::
        (encode (natText shift.natAbs) ++ rest) := by
  rw [Text.Utf8.encode_append, List.append_assoc]
  split <;> rfl

/-- Notation with an exponent. -/
theorem readUnsigned_scientific (negative : Bool) {d : Digits} (h : d.digits < 2 ^ 64)
    (small : (d.exponent + (Decimal.digitCount d.digits - 1 : Nat)).natAbs < 2 ^ 31)
    (ends : Ends rest) :
    readUnsigned negative (encode (Decimal.scientific d) ++ rest) =
      realOfParts negative d.digits d.exponent rest := by
  obtain ⟨digits, exponent⟩ := d
  have numeral := Decimal.isNumeral_natText digits
  have value := Decimal.appended_digitsOf_natText digits
  unfold Decimal.scientific
  simp only at h small ⊢
  unfold Decimal.digitCount at small
  cases hc : natText digits with
  | nil => exact absurd hc Nat.toDigits_ne_nil
  | cons c cs =>
    rw [hc] at numeral value small
    obtain ⟨hc', hcs⟩ := numeral.of_cons
    have one : IsNumeral [c] := List.forall_mem_singleton.2 hc'
    have shift : exponent + (cs.length : Int) = exponent + ((c :: cs).length - 1 : Nat) := rfl
    rw [← shift] at small ⊢
    cases cs with
    | nil =>
      have letter : isDigit (octet 'e') = false := by decide
      have kept : appendDigits 0 (digitsOf [c]) = _ := appendDigits_of_lt (by rwa [value])
      rw [encode_exponent, readUnsigned_encode negative one (fun _ => rfl)
          (endsDigits_cons letter _), readAfterDigits_exponent,
        readExponent_encode negative _ _ small ends.digits, kept, value]
      congr 1
      simp only [List.length_nil]
      omega
    | cons c' cs =>
      have point : isDigit (octet '.') = false := by decide
      have front : encode (c :: '.' :: c' :: cs) = encode [c] ++ octet '.' :: encode (c' :: cs) :=
        Text.Utf8.encode_append [c] ('.' :: c' :: cs)
      rw [encode_exponent, front, List.append_assoc, List.cons_append,
        readUnsigned_encode negative one (fun _ => rfl) (endsDigits_cons point _),
        readAfterDigits_point, appendDigits_first hc',
        readFraction_exponent negative _ _ hcs (List.cons_ne_nil c' cs),
        appendDigits_others value h, readExponent_encode negative _ _ small ends.digits]
      congr 1
      simp only [digitsOf, List.length_map, List.length_cons, List.length_nil]
      omega

end Texts

/-! ## From a number to its text and back -/

section Doubles

variable {x : Binary} {negative : Bool}

/-- The largest number is written with seventeen digits that are read without running over. -/
theorem shortest_largest (negative : Bool) :
    Format.double.shortest ⟨negative, 2 ^ 53 - 1, 971⟩ = ⟨17976931348623157, 292⟩ ∧
      (ofParts 17976931348623157 292).isSome = true := by
  cases negative <;> decide +kernel

/-- A power of two and one of ten compare as their roots do. -/
theorem two_zpow_lt {a b : Nat} (k : Nat) (h : 2 ^ a < 10 ^ b) (nonzero : k ≠ 0) :
    (2 : ℚ) ^ ((a * k : Nat) : Int) < (10 : ℚ) ^ ((b * k : Nat) : Int) := by
  have cast : (2 : ℚ) ^ a < (10 : ℚ) ^ b := by exact_mod_cast h
  rw [zpow_natCast, zpow_natCast, pow_mul, pow_mul]
  exact pow_lt_pow_left₀ cast (by positivity) nonzero

theorem ten_zpow_neg_lt {a b : Nat} (k : Nat) (h : 2 ^ a < 10 ^ b) (nonzero : k ≠ 0) :
    (10 : ℚ) ^ (-((b * k : Nat) : Int)) < (2 : ℚ) ^ (-((a * k : Nat) : Int)) := by
  rw [zpow_neg, zpow_neg]
  exact inv_strictAnti₀ (by positivity) (two_zpow_lt k h nonzero)

theorem leadingExponent_fraction (h : x.mantissa ≠ 0) :
    (10 : ℚ) ^ Decimal.leadingExponent x.fraction.1 x.fraction.2 ≤ x.magnitude ∧
      x.magnitude < (10 : ℚ) ^ (Decimal.leadingExponent x.fraction.1 x.fraction.2 + 1) := by
  obtain ⟨value, hd⟩ := x.fraction_eq
  have hn : 0 < x.fraction.1 := x.fraction_pos h
  rw [← value]
  exact Decimal.leadingExponent_spec hn hd

theorem smallest_le_magnitude (hx : Format.double.Holds x) (h : x.mantissa ≠ 0) :
    (2 : ℚ) ^ (-((1074 : Nat) : Int)) ≤ x.magnitude := by
  have one : (1 : ℚ) ≤ x.mantissa := by exact_mod_cast Nat.pos_of_ne_zero h
  calc
    (2 : ℚ) ^ (-((1074 : Nat) : Int)) ≤ (2 : ℚ) ^ x.exponent :=
      zpow_le_zpow_right₀ one_le_two hx.low
    _ ≤ x.magnitude := le_mul_of_one_le_left (zpow_pos two_pos _).le one

theorem magnitude_lt_two_zpow (hx : Format.double.Holds x) :
    x.magnitude < (2 : ℚ) ^ ((1024 : Nat) : Int) := by
  have mantissa : (x.mantissa : ℚ) < (2 : ℚ) ^ (53 : Int) := by
    have := hx.mantissa
    rw [show (2 : ℚ) ^ (53 : Int) = ((2 ^ 53 : Nat) : ℚ) by norm_num]
    exact_mod_cast this
  calc
    x.magnitude < (2 : ℚ) ^ (53 : Int) * (2 : ℚ) ^ x.exponent :=
      mul_lt_mul_of_pos_right mantissa (zpow_pos two_pos _)
    _ ≤ (2 : ℚ) ^ (53 : Int) * (2 : ℚ) ^ (971 : Int) :=
      mul_le_mul_of_nonneg_left (zpow_le_zpow_right₀ one_le_two hx.high) (zpow_pos two_pos _).le
    _ = (2 : ℚ) ^ ((1024 : Nat) : Int) := by
      rw [← zpow_add₀ two_ne_zero]
      rfl

theorem ceiling_le_double (h : x.mantissa ≠ 0) : x.ceiling ≤ 2 * x.magnitude := by
  have one : (1 : ℚ) ≤ x.mantissa := by exact_mod_cast Nat.pos_of_ne_zero h
  have twos := zpow_pos (two_pos (α := ℚ)) x.exponent
  unfold Binary.ceiling Binary.magnitude
  nlinarith

theorem digits_lt_of_place {d : Digits} {l : Int} (place : l - 17 ≤ d.exponent)
    (value : d.digits * (10 : ℚ) ^ d.exponent < 2 * (10 : ℚ) ^ (l + 1)) :
    d.digits < 2 ^ 64 := by
  have bound : (d.digits : ℚ) * (10 : ℚ) ^ (l - 17) < 2 * (10 : ℚ) ^ (l + 1) :=
    lt_of_le_of_lt
      (mul_le_mul_of_nonneg_left (Decimal.ten_zpow_le place) (Nat.cast_nonneg _)) value
  have same : (10 : ℚ) ^ (l + 1) = 10 ^ 18 * (10 : ℚ) ^ (l - 17) := by
    rw [← zpow_natCast, ← Decimal.ten_zpow_add]
    congr 1
    push_cast
    omega
  rw [same, ← mul_assoc, mul_lt_mul_iff_left₀ (Decimal.ten_zpow_pos _)] at bound
  have whole : (d.digits : ℚ) < (2 * 10 ^ 18 : Nat) := by exact_mod_cast bound
  have := Nat.cast_lt.1 whole
  omega

theorem place_lt_of_value {d : Digits} (positive : 0 < d.digits)
    (value : d.digits * (10 : ℚ) ^ d.exponent < (2 : ℚ) ^ ((1025 : Nat) : Int)) :
    d.exponent + (Decimal.digitCount d.digits - 1 : Nat) < 310 := by
  have first := (Decimal.ten_zpow_digitCount positive).1
  have count : 0 < Decimal.digitCount d.digits := Nat.length_toDigits_pos
  have reached : (10 : ℚ) ^ (d.exponent + (Decimal.digitCount d.digits - 1 : Nat)) <
      (10 : ℚ) ^ ((310 : Nat) : Int) :=
    calc
      (10 : ℚ) ^ (d.exponent + (Decimal.digitCount d.digits - 1 : Nat)) =
          (10 : ℚ) ^ ((Decimal.digitCount d.digits : Int) - 1) * (10 : ℚ) ^ d.exponent := by
        rw [← Decimal.ten_zpow_add]
        congr 1
        omega
      _ ≤ d.digits * (10 : ℚ) ^ d.exponent :=
        mul_le_mul_of_nonneg_right first (Decimal.ten_zpow_pos _).le
      _ < (2 : ℚ) ^ ((1025 : Nat) : Int) := value
      _ < (10 : ℚ) ^ ((310 : Nat) : Int) := by
        rw [show 1025 = 205 * 5 from rfl, show 310 = 62 * 5 from rfl]
        exact two_zpow_lt 5 (by norm_num) (by decide)
  exact Decimal.ten_zpow_lt_iff.1 reached

/-- What is written for a number that is not zero: few digits, at a place within the range. -/
theorem shortest_bounds (hx : Format.double.Holds x) (h : x.mantissa ≠ 0) :
    0 < (Format.double.shortest x).digits ∧ (Format.double.shortest x).digits < 2 ^ 64 ∧
      -400 < (Format.double.shortest x).exponent ∧
      (Format.double.shortest x).exponent +
        (Decimal.digitCount (Format.double.shortest x).digits - 1 : Nat) < 400 := by
  obtain ⟨positive, place, value⟩ := Format.double.shortest_within h
  obtain ⟨low, high⟩ := leadingExponent_fraction h
  generalize Decimal.leadingExponent x.fraction.1 x.fraction.2 = l at place low high
  generalize Format.double.shortest x = d at positive place value ⊢
  have value := value.trans (ceiling_le_double h)
  have below := magnitude_lt_two_zpow hx
  have above : -325 < l := by
    have tens := ten_zpow_neg_lt (a := 179) (b := 54) 6 (by norm_num) (by decide)
    have least := smallest_le_magnitude hx h
    have := Decimal.ten_zpow_lt_iff.1 (lt_of_lt_of_le tens (least.trans high.le))
    omega
  have top : d.exponent + (Decimal.digitCount d.digits - 1 : Nat) < 310 := by
    refine place_lt_of_value positive (lt_of_le_of_lt value ?_)
    rw [show ((1025 : Nat) : Int) = ((1024 : Nat) : Int) + 1 from rfl, zpow_add_one₀ two_ne_zero,
      mul_comm]
    linarith
  exact ⟨positive, digits_lt_of_place place (lt_of_le_of_lt value (by linarith)),
    by omega, by omega⟩

theorem largestBelow_cast : (largestBelow : ℚ) = (2 ^ 54 - 3) * 2 ^ 970 := by
  unfold largestBelow
  generalize 970 = e
  push_cast
  norm_num

/-- Every number but the largest is written with a decimal within `largestBelow`. -/
theorem ceiling_le (hx : Format.double.Holds x)
    (other : ¬ (x.mantissa = 2 ^ 53 - 1 ∧ x.exponent = 971)) : x.ceiling ≤ largestBelow := by
  have mantissa : x.mantissa < 2 ^ 53 := hx.mantissa
  have exponent : x.exponent ≤ 971 := hx.high
  have power : (2 : ℚ) ^ ((970 : Nat) : Int) = 2 ^ 970 := zpow_natCast 2 970
  have pos := zpow_pos (two_pos (α := ℚ)) ((970 : Nat) : Int)
  rw [largestBelow_cast, ← power]
  unfold Binary.ceiling
  rcases Int.lt_or_eq_of_le exponent with below | last
  · have bound : (x.mantissa : ℚ) + 1 ≤ 2 ^ 53 := by exact_mod_cast mantissa
    calc
      ((x.mantissa : ℚ) + 1 / 2) * (2 : ℚ) ^ x.exponent ≤
          (2 ^ 54 - 3) * (2 : ℚ) ^ x.exponent :=
        mul_le_mul_of_nonneg_right (by linarith) (zpow_pos two_pos _).le
      _ ≤ (2 ^ 54 - 3) * (2 : ℚ) ^ ((970 : Nat) : Int) :=
        mul_le_mul_of_nonneg_left (zpow_le_zpow_right₀ one_le_two (by omega)) (by norm_num)
  · have bound : (x.mantissa : ℚ) + 2 ≤ 2 ^ 53 := by
      have : x.mantissa + 2 ≤ 2 ^ 53 := by omega
      exact_mod_cast this
    rw [last, show (971 : Int) = ((970 : Nat) : Int) + 1 from rfl, zpow_add_one₀ two_ne_zero]
    calc
      ((x.mantissa : ℚ) + 1 / 2) * ((2 : ℚ) ^ ((970 : Nat) : Int) * 2) =
          (2 * x.mantissa + 1) * (2 : ℚ) ^ ((970 : Nat) : Int) := by ring
      _ ≤ (2 ^ 54 - 3) * (2 : ℚ) ^ ((970 : Nat) : Int) :=
        mul_le_mul_of_nonneg_right (by linarith) pos.le

/-- The decimal of a number makes a number again. -/
theorem ofParts_shortest (hx : Format.double.Holds x) (h : x.mantissa ≠ 0) :
    (ofParts (Format.double.shortest x).digits (Format.double.shortest x).exponent).isSome =
      true := by
  by_cases largest : x.mantissa = 2 ^ 53 - 1 ∧ x.exponent = 971
  · obtain ⟨negative, mantissa, exponent⟩ := x
    obtain ⟨rfl, rfl⟩ := largest
    obtain ⟨digits, done⟩ := shortest_largest negative
    rw [digits]
    exact done
  · obtain ⟨-, small, -, -⟩ := shortest_bounds hx h
    refine ofParts_isSome small fun k hk => ?_
    have value := (Format.double.shortest_within h).value.trans (ceiling_le hx largest)
    unfold Digits.value at value
    rw [hk, zpow_natCast] at value
    exact_mod_cast value

theorem readUnsigned_body (hx : Format.double.Holds x) (negative : Bool) :
    ∃ (m : Nat) (e : Int), (ofParts m e).isSome = true ∧ ∀ rest, Ends rest →
      readUnsigned negative (encode (doubleLayout.body (Format.double.shortest x)) ++ rest) =
        realOfParts negative m e rest := by
  have positional {d : Digits} (h : 0 < d.digits ∨ d.exponent = 0)
      (short : d.exponent + (Decimal.digitCount d.digits - 1 : Nat) ≤ 15) :
      ∃ (m : Nat) (e : Int), (ofParts m e).isSome = true ∧ ∀ rest, Ends rest →
        readUnsigned negative (encode (Decimal.positional true d) ++ rest) =
          realOfParts negative m e rest := by
    obtain ⟨m, e, small, bound, reads⟩ := readUnsigned_positional negative h short
    refine ⟨m, e, ofParts_isSome small fun k hk => ?_, reads⟩
    calc
      m * 10 ^ k ≤ 2 ^ 64 * 10 ^ 16 :=
        Nat.mul_le_mul (Nat.le_of_lt small) (Nat.pow_le_pow_right (by omega) (by omega))
      _ ≤ largestBelow := by decide +kernel
  by_cases zero : x.mantissa = 0
  · have digits : Format.double.shortest x = ⟨0, 0⟩ := by
      simp only [Format.shortest, Binary.isZero, beq_iff_eq.2 zero, if_true]
    rw [digits]
    exact positional (d := ⟨0, 0⟩) (.inr rfl) (by decide)
  · obtain ⟨positive, small, low, high⟩ := shortest_bounds hx zero
    have done := ofParts_shortest hx zero
    generalize Format.double.shortest x = d at positive small low high done ⊢
    unfold Decimal.Layout.body
    simp only
    split
    next inside =>
      refine positional (.inl positive) ?_
      exact of_decide_eq_true (Bool.and_eq_true_iff.1 inside).2
    next =>
      exact ⟨d.digits, d.exponent, done, fun rest ends =>
        readUnsigned_scientific negative small (by omega) ends⟩

theorem readUnsigned_of_minus (negative : Bool) (bs : Bytes) (r : Number × Bytes) :
    readUnsigned negative (octet '-' :: bs) ≠ .ok r := by
  have zero : (octet '-' == octet '0') = false := by decide
  have digit : isDigit (octet '-') = false := by decide
  simp only [readUnsigned, zero, digit, Bool.false_eq_true, if_false]
  exact fun h => by cases h

theorem readNumber_of_readUnsigned {bs : Bytes} {r : Number × Bytes}
    (h : readUnsigned false bs = .ok r) : readNumber bs = .ok r := by
  cases bs with
  | nil => exact h
  | cons b bs =>
    by_cases minus : b = octet '-'
    · rw [minus] at h
      exact absurd h (readUnsigned_of_minus false bs r)
    · simp only [readNumber, beq_eq_false_iff_ne.2 minus, Bool.false_eq_true, if_false, h]

theorem Holds.signed (hx : Format.double.Holds x) : Format.double.Holds (signed negative x) := by
  obtain ⟨mantissa, low, high⟩ := hx
  cases negative <;> exact ⟨mantissa, low, high⟩

/-- A number of double precision is read as one, whatever follows it. -/
theorem readNumber_doubleChars (hx : Format.double.Holds x) :
    ∃ y, ∀ rest, Ends rest →
      readNumber (encode (doubleChars x) ++ rest) = .ok (.real y, rest) := by
  obtain ⟨m, e, done, reads⟩ := readUnsigned_body hx x.negative
  obtain ⟨y, hy⟩ := Option.isSome_iff_exists.1 done
  refine ⟨signed x.negative y, fun rest ends => ?_⟩
  have here := reads rest ends
  rw [realOfParts, hy] at here
  unfold doubleChars Decimal.Layout.text
  simp only
  cases sign : x.negative with
  | false =>
    rw [sign] at here
    exact readNumber_of_readUnsigned here
  | true =>
    rw [sign] at here
    exact (readNumber_minus _).trans here

end Doubles
end ReplyPipeline.Json
