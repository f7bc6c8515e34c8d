import ReplyPipeline.Proofs.Readable
import ReplyPipeline.Time.Instant

/-!
# The text of an instant

Whatever text an instant was read from, it lies on the calendar, and the text it is written as
names the same instant, leap seconds included.
-/
namespace ReplyPipeline.Instant

open Decimal (IsNumeral digitsOf appended natText padded digitValue?)

/-- A time on a day that the calendar has. -/
structure OnCalendar (t : Instant) : Prop where
  month_pos : 1 ≤ t.month
  month_le : t.month ≤ 12
  day_pos : 1 ≤ t.day
  day_le : t.day ≤ daysIn t.year t.month
  hour : t.hour ≤ 23
  minute : t.minute ≤ 59
  second : t.second ≤ 59
  nanos : t.nanos < 10 ^ 9 ∨ t.second = 59 ∧ t.nanos < 2 * 10 ^ 9

/-- An instant within the years that dates go to. -/
structure Proper (t : Instant) : Prop extends OnCalendar t where
  first : firstYear ≤ t.year
  last : t.year ≤ lastYear

/-! ## Digits -/

/-- No digit stands here. -/
def NoDigit (cs : List Char) : Prop := ∀ c ∈ cs.head?, digitValue? c = none

theorem digitValue?_of_isDigit {c : Char} (h : c.isDigit = true) :
    digitValue? c = some (c.toNat - 48) := by
  obtain ⟨low, high⟩ := Decimal.toNat_of_isDigit h
  have all : ∀ n < 58, 48 ≤ n →
      digitValue? (Char.ofNat n) = some ((Char.ofNat n).toNat - 48) := by decide
  have here := all c.toNat (by omega) low
  rwa [Char.ofNat_toNat] at here

theorem isBlank_of_isDigit {c : Char} (h : c.isDigit = true) : Text.isBlank c = false := by
  obtain ⟨low, high⟩ := Decimal.toNat_of_isDigit h
  have all : ∀ n < 58, 48 ≤ n → Text.isBlank (Char.ofNat n) = false := by decide
  have here := all c.toNat (by omega) low
  rwa [Char.ofNat_toNat] at here

theorem takeNumber_numeral {cs rest : List Char} (h : IsNumeral cs) {most : Nat}
    (few : cs.length ≤ most) (stop : cs.length = most ∨ NoDigit rest) :
    takeNumber most (cs ++ rest) = (digitsOf cs, rest) := by
  induction cs generalizing most with
  | nil =>
    cases most with
    | zero => rfl
    | succ most =>
      have none := stop.resolve_left (by simp)
      cases rest with
      | nil => rfl
      | cons c rest =>
        have no : digitValue? c = .none := none c rfl
        simp only [List.nil_append, takeNumber, no]
        rfl
  | cons c cs ih =>
    obtain ⟨digit, digits⟩ := h.of_cons
    obtain ⟨most, rfl⟩ := Nat.exists_eq_succ_of_ne_zero (Nat.ne_zero_of_lt few)
    have later := ih digits (Nat.le_of_succ_le_succ few) (stop.imp_left Nat.succ.inj)
    simp only [List.cons_append, takeNumber, digitValue?_of_isDigit digit, later]
    rfl

theorem valueOf_of_lt {ds : List Nat} (h : appended 0 ds < 2 ^ 63) :
    valueOf ds = .ok (appended 0 ds) := by
  unfold valueOf
  exact if_pos h

theorem number_numeral {cs rest : List Char} (h : IsNumeral cs) (some : cs ≠ []) {most : Nat}
    (few : cs.length ≤ most) (stop : cs.length = most ∨ NoDigit rest)
    (small : appended 0 (digitsOf cs) < 2 ^ 63) :
    number most (cs ++ rest) = .ok (appended 0 (digitsOf cs), rest) := by
  have taken := takeNumber_numeral h few stop
  have value := valueOf_of_lt small
  cases cs with
  | nil => exact absurd rfl some
  | cons c cs =>
    rw [List.cons_append] at taken ⊢
    simp only [number, taken]
    simp only [digitsOf, List.map_cons] at value ⊢
    rw [value]
    rfl

/-! ## Padded numbers -/

theorem toList_padded (places n : Nat) :
    (padded places n).toList = List.replicate (places - (natText n).length) '0' ++ natText n :=
  String.toList_ofList

theorem isNumeral_padded (places n : Nat) : IsNumeral (padded places n).toList := by
  rw [toList_padded]
  exact (Decimal.isNumeral_replicate _).append (Decimal.isNumeral_natText n)

theorem padded_ne_nil (places n : Nat) : (padded places n).toList ≠ [] := by
  rw [toList_padded]
  exact List.append_ne_nil_of_right_ne_nil _ Nat.toDigits_ne_nil

theorem length_padded {places n : Nat} (some : 0 < places) (h : n < 10 ^ places) :
    (padded places n).toList.length = places := by
  have short : (natText n).length ≤ places :=
    (Nat.length_toDigits_le_iff (by decide) some).2 h
  rw [toList_padded, List.length_append, List.length_replicate]
  omega

theorem appended_zeros (k : Nat) : appended 0 (digitsOf (List.replicate k '0')) = 0 := by
  induction k with
  | zero => rfl
  | succ k ih => exact ih

theorem appended_padded (places n : Nat) : appended 0 (digitsOf (padded places n).toList) = n := by
  rw [toList_padded, digitsOf, List.map_append, Decimal.appended_append, ← digitsOf, ← digitsOf,
    appended_zeros, Decimal.appended_digitsOf_natText]

theorem number_padded {places n most : Nat} {rest : List Char}
    (few : (padded places n).toList.length ≤ most)
    (stop : (padded places n).toList.length = most ∨ NoDigit rest) (small : n < 2 ^ 63) :
    number most ((padded places n).toList ++ rest) = .ok (n, rest) := by
  have read := number_numeral (isNumeral_padded places n) (padded_ne_nil places n) few stop
  rw [appended_padded] at read
  exact read small

theorem skipBlank_cons {c : Char} (h : Text.isBlank c = false) (cs : List Char) :
    skipBlank (c :: cs) = c :: cs := by
  unfold skipBlank
  rw [List.dropWhile_cons, h]
  rfl

theorem skipBlank_numeral {cs : List Char} (h : IsNumeral cs) (some : cs ≠ []) (rest : List Char) :
    skipBlank (cs ++ rest) = cs ++ rest := by
  cases cs with
  | nil => exact absurd rfl some
  | cons c cs => exact skipBlank_cons (isBlank_of_isDigit h.of_cons.1) _

theorem bounded_padded {low high n : Nat} (above : low ≤ n) (below : n ≤ high) (two : high < 100)
    (rest : List Char) : bounded low high ((padded 2 n).toList ++ rest) = .ok (n, rest) := by
  have length : (padded 2 n).toList.length = 2 := length_padded (by decide) (by omega)
  have inside : (decide (low ≤ n) && decide (n ≤ high)) = true :=
    Bool.and_eq_true_iff.2 ⟨decide_eq_true above, decide_eq_true below⟩
  unfold bounded
  rw [skipBlank_numeral (isNumeral_padded 2 n) (padded_ne_nil 2 n),
    number_padded (Nat.le_of_eq length) (.inl length) (by omega)]
  exact if_pos inside

theorem mark_cons {m : Char} (h : Text.isBlank m = false) (rest : List Char) :
    mark m (m :: rest) = .ok rest := by
  unfold mark
  rw [skipBlank_cons h]
  exact if_pos (beq_self_eq_true m)

/-! ## Years -/

theorem noDigit_cons {c : Char} (h : digitValue? c = none) (rest : List Char) :
    NoDigit (c :: rest) := by
  intro d hd
  cases hd
  exact h

theorem length_padded_le (places n : Nat) (rest : List Char) :
    (padded places n).toList.length ≤ ((padded places n).toList ++ rest).length := by
  rw [List.length_append]
  exact Nat.le_add_right _ _

section Years

variable {cs rest : List Char} {n : Nat}

theorem signedYear_of_digit {c : Char} (digit : c.isDigit = true)
    (read : number 4 (c :: cs) = .ok (n, rest)) : signedYear (c :: cs) = .ok ((n : Int), rest) := by
  unfold signedYear
  rw [skipBlank_cons (isBlank_of_isDigit digit)]
  split
  next heq =>
    cases heq
    exact absurd digit (by decide)
  next heq =>
    cases heq
    exact absurd digit (by decide)
  next => rw [read]; rfl

theorem yearOf_of_bounds {y : Int} (low : -2 ^ 31 ≤ y) (high : y < 2 ^ 31) : yearOf y = .ok y := by
  unfold yearOf
  exact if_pos (Bool.and_eq_true_iff.2 ⟨decide_eq_true low, decide_eq_true high⟩)

theorem signedYear_minus (read : number cs.length cs = .ok (n, rest)) (small : n < 2 ^ 31) :
    signedYear ('-' :: cs) = .ok (-(n : Int), rest) := by
  have year : yearOf (-(n : Int)) = .ok (-(n : Int)) := yearOf_of_bounds (by omega) (by omega)
  unfold signedYear
  rw [skipBlank_cons (by decide)]
  simp only [read, bind, Except.bind, year]
  rfl

-- Over any bounds, since the kernel would count up to those of `yearOf`.
theorem signedYear_plus_over (f : Int → Except InstantError Int)
    (read : number cs.length cs = .ok (n, rest)) (year : f n = .ok (n : Int)) :
    (match '+' :: cs with
      | '-' :: rest => do
        let (n, rest) ← number rest.length rest
        return (← f (-(n : Int)), rest)
      | '+' :: rest => do
        let (n, rest) ← number rest.length rest
        return (← f n, rest)
      | cs => do
        let (n, rest) ← number 4 cs
        return (n, rest)) = Except.ok ((n : Int), rest) := by
  simp only [read, bind, Except.bind, year]
  rfl

theorem signedYear_plus (read : number cs.length cs = .ok (n, rest)) (small : n < 2 ^ 31) :
    signedYear ('+' :: cs) = .ok ((n : Int), rest) := by
  have year : yearOf n = .ok (n : Int) := yearOf_of_bounds (by omega) (by omega)
  unfold signedYear
  rw [skipBlank_cons (by decide)]
  exact signedYear_plus_over yearOf read year

theorem signedYear_yearText {y : Int} (first : firstYear ≤ y) (last : y ≤ lastYear)
    (rest : List Char) :
    signedYear ((yearText y).toList ++ '-' :: rest) = .ok (y, '-' :: rest) := by
  have dash : NoDigit ('-' :: rest) := noDigit_cons (by decide) rest
  unfold firstYear at first
  unfold lastYear at last
  unfold yearText
  split
  next plain =>
    simp only [Bool.and_eq_true, decide_eq_true_eq] at plain
    have length : (padded 4 y.toNat).toList.length = 4 := length_padded (by decide) (by omega)
    have read : number 4 ((padded 4 y.toNat).toList ++ '-' :: rest) = .ok (y.toNat, '-' :: rest) :=
      number_padded (Nat.le_of_eq length) (.inl length) (by omega)
    have numeral := isNumeral_padded 4 y.toNat
    obtain ⟨c, cs, shape⟩ := List.exists_cons_of_ne_nil (padded_ne_nil 4 y.toNat)
    rw [shape] at numeral
    rw [shape, List.cons_append] at read
    rw [shape, List.cons_append, signedYear_of_digit numeral.of_cons.1 read]
    exact congrArg (fun z => Except.ok (z, '-' :: rest)) (Int.toNat_of_nonneg plain.1)
  next =>
    have read := number_padded (length_padded_le 4 y.natAbs ('-' :: rest)) (.inr dash) (by omega)
    split
    next negative =>
      rw [String.toList_append, List.append_assoc]
      refine (signedYear_minus read (by omega)).trans ?_
      exact congrArg (fun z => Except.ok (z, '-' :: rest)) (by omega)
    next =>
      rw [String.toList_append, List.append_assoc]
      refine (signedYear_plus read (by omega)).trans ?_
      exact congrArg (fun z => Except.ok (z, '-' :: rest)) (by omega)

end Years

/-! ## Reading what was written -/

theorem fraction_point {n places k : Nat} {rest : List Char} (few : places ≤ 9) (some : 0 < places)
    (small : n < 10 ^ places) (stop : NoDigit rest) (scale : n * 10 ^ (9 - places) = k) :
    fraction ('.' :: (padded places n).toList ++ rest) = .ok (k, rest) := by
  have length := length_padded some small
  have numeral := isNumeral_padded places n
  have taken : takeNumber 9 ((padded places n).toList ++ rest) =
      (digitsOf (padded places n).toList, rest) :=
    takeNumber_numeral numeral (by omega) (.inr stop)
  have bound : n < 2 ^ 63 :=
    calc
      n < 10 ^ places := small
      _ ≤ 10 ^ 9 := Nat.pow_le_pow_right (by decide) few
      _ < 2 ^ 63 := by decide
  have value : valueOf (digitsOf (padded places n).toList) = .ok n := by
    rw [valueOf_of_lt (by rwa [appended_padded]), appended_padded]
  have count : (digitsOf (padded places n).toList).length = places := by
    rw [digitsOf, List.length_map, length]
  have skip : rest.dropWhile (fun c => (digitValue? c).isSome) = rest := by
    cases rest with
    | nil => rfl
    | cons c rest =>
      have no : digitValue? c = none := stop c rfl
      rw [List.dropWhile_cons, no]
      rfl
  obtain ⟨c, cs, shape⟩ := List.exists_cons_of_ne_nil (padded_ne_nil places n)
  rw [shape] at taken value count ⊢
  simp only [List.cons_append] at taken ⊢
  simp only [fraction, taken]
  simp only [digitsOf, List.map_cons] at value count ⊢
  rw [value]
  simp only [bind, Except.bind, count, scale, skip]

theorem fraction_fractionText {n : Nat} (h : n < 10 ^ 9) {rest : List Char} (stop : NoDigit rest)
    (point : rest.head? ≠ some '.') :
    fraction ((fractionText n).toList ++ rest) = .ok (n, rest) := by
  unfold fractionText
  split
  next zero =>
    obtain rfl := beq_iff_eq.1 zero
    change fraction rest = .ok (0, rest)
    unfold fraction
    split
    next => exact absurd rfl point
    next => rfl
  next =>
    split
    next milli =>
      rw [String.toList_append]
      exact fraction_point (by decide) (by decide) (by omega) stop
        (Nat.div_mul_cancel (Nat.dvd_of_mod_eq_zero (beq_iff_eq.1 milli)))
    next =>
      split
      next micro =>
        rw [String.toList_append]
        exact fraction_point (by decide) (by decide) (by omega) stop
          (Nat.div_mul_cancel (Nat.dvd_of_mod_eq_zero (beq_iff_eq.1 micro)))
      next =>
        rw [String.toList_append]
        exact fraction_point (by decide) (by decide) h stop (Nat.mul_one n)

theorem offset_z : offset (skipBlank ['Z']) = .ok (0, []) := by
  have skip : skipBlank ['Z'] = ['Z'] := skipBlank_cons (by decide) []
  rw [skip]
  rfl

theorem minusOffset_zero {t : Instant} (hour : t.hour ≤ 23) (minute : t.minute ≤ 59) :
    t.minusOffset 0 = t := by
  unfold minusOffset
  have total : (t.hour : Int) * 60 + t.minute - 0 = ((t.hour * 60 + t.minute : Nat) : Int) := by
    omega
  simp only [total]
  rw [if_neg (by omega), if_neg (by omega)]
  have hours : (((t.hour * 60 + t.minute : Nat) : Int) % 1440 / 60).toNat = t.hour := by omega
  have minutes : (((t.hour * 60 + t.minute : Nat) : Int) % 1440 % 60).toNat = t.minute := by omega
  rw [hours, minutes]

theorem toList_text (t : Instant) : t.text.toList =
    (yearText t.year).toList ++ '-' :: ((padded 2 t.month).toList ++ '-' ::
      ((padded 2 t.day).toList ++ 'T' :: ((padded 2 t.hour).toList ++ ':' ::
        ((padded 2 t.minute).toList ++ ':' ::
          ((padded 2 (if 10 ^ 9 ≤ t.nanos then t.second + 1 else t.second)).toList ++
            ((fractionText (if 10 ^ 9 ≤ t.nanos then t.nanos - 10 ^ 9 else t.nanos)).toList ++
              ['Z'])))))) := by
  have dash : "-".toList = ['-'] := rfl
  have colon : ":".toList = [':'] := rfl
  have mark : "T".toList = ['T'] := rfl
  have zulu : "Z".toList = ['Z'] := rfl
  simp only [text, String.toList_append, dash, colon, mark, zulu, List.append_assoc,
    List.cons_append, List.nil_append]

theorem daysIn_le (y : Int) (m : Nat) : 28 ≤ daysIn y m ∧ daysIn y m ≤ 31 := by
  unfold daysIn
  repeat' split
  all_goals decide

theorem ofText_of_toList {s : String} {y : Int} {month day hour minute second nanos : Nat}
    (shape : s.toList = (yearText y).toList ++ '-' :: ((padded 2 month).toList ++ '-' ::
      ((padded 2 day).toList ++ 'T' :: ((padded 2 hour).toList ++ ':' ::
        ((padded 2 minute).toList ++ ':' :: ((padded 2 second).toList ++
          ((fractionText nanos).toList ++ ['Z'])))))))
    (first : firstYear ≤ y) (last : y ≤ lastYear) (months : 1 ≤ month ∧ month ≤ 12)
    (days : 1 ≤ day ∧ day ≤ daysIn y month) (hours : hour ≤ 23) (minutes : minute ≤ 59)
    (seconds : second ≤ 60) (small : nanos < 10 ^ 9) :
    ofText s = .ok ⟨y, month, day, hour, minute, if second == 60 then 59 else second,
      if second == 60 then nanos + 10 ^ 9 else nanos⟩ := by
  have dash : Text.isBlank '-' = false := by decide
  have colon : Text.isBlank ':' = false := by decide
  have days31 := (daysIn_le y month).2
  have readYear := signedYear_yearText first last ((padded 2 month).toList ++ '-' ::
      ((padded 2 day).toList ++ 'T' :: ((padded 2 hour).toList ++ ':' ::
        ((padded 2 minute).toList ++ ':' :: ((padded 2 second).toList ++
          ((fractionText nanos).toList ++ ['Z']))))))
  rw [← shape] at readYear
  have readMonth (cs : List Char) :
      bounded 1 12 ((padded 2 month).toList ++ cs) = .ok (month, cs) :=
    bounded_padded months.1 months.2 (by decide) cs
  have readDay (cs : List Char) : bounded 1 31 ((padded 2 day).toList ++ cs) = .ok (day, cs) :=
    bounded_padded days.1 (Nat.le_trans days.2 days31) (by decide) cs
  have readHour (cs : List Char) : bounded 0 23 ((padded 2 hour).toList ++ cs) = .ok (hour, cs) :=
    bounded_padded (Nat.zero_le hour) hours (by decide) cs
  have readMinute (cs : List Char) :
      bounded 0 59 ((padded 2 minute).toList ++ cs) = .ok (minute, cs) :=
    bounded_padded (Nat.zero_le minute) minutes (by decide) cs
  have readSecond (cs : List Char) :
      bounded 0 60 ((padded 2 second).toList ++ cs) = .ok (second, cs) :=
    bounded_padded (Nat.zero_le second) seconds (by decide) cs
  have readFraction : fraction ((fractionText nanos).toList ++ ['Z']) = .ok (nanos, ['Z']) :=
    fraction_fractionText small (noDigit_cons (by decide) []) (by decide)
  have readMark (cs : List Char) : dateMark ('T' :: cs) = .ok cs := rfl
  have calendar : (decide (y < firstYear) || decide (lastYear < y) ||
      decide (daysIn y month < day)) = false := by
    rw [decide_eq_false (Int.not_lt.2 first), decide_eq_false (Int.not_lt.2 last),
      decide_eq_false (Nat.not_lt.2 days.2)]
    rfl
  have years : (decide (y < firstYear) || decide (lastYear < y)) = false := by
    rw [decide_eq_false (Int.not_lt.2 first), decide_eq_false (Int.not_lt.2 last)]
    rfl
  simp only [ofText, readYear, bind, Except.bind, mark_cons dash, mark_cons colon, readMonth,
    readDay, readHour, readMinute, readSecond, readFraction, offset_z, readMark, calendar]
  rw [minusOffset_zero hours minutes]
  simp only [years]
  rfl

/-- The text of an instant names it. -/
theorem ofText_text {t : Instant} (h : t.Proper) : ofText t.text = .ok t := by
  have read := ofText_of_toList (toList_text t) h.first h.last ⟨h.month_pos, h.month_le⟩
    ⟨h.day_pos, h.day_le⟩ h.hour h.minute
  have second := h.second
  by_cases leap : 10 ^ 9 ≤ t.nanos
  · obtain ⟨last, bound⟩ := h.nanos.resolve_left (Nat.not_lt.2 leap)
    rw [if_pos leap, if_pos leap] at read
    rw [read (by omega) (by omega), last, Nat.sub_add_cancel leap]
    exact congrArg (fun k => Except.ok { t with second := k }) last.symm
  · rw [if_neg leap, if_neg leap] at read
    rw [read (by omega) (Nat.lt_of_not_le leap), if_neg, if_neg]
    all_goals
      rw [beq_iff_eq]
      omega

/-! ## What is read -/

theorem bounds_of_bounded {low high n : Nat} {cs rest : List Char}
    (h : bounded low high cs = .ok (n, rest)) : low ≤ n ∧ n ≤ high := by
  obtain ⟨⟨k, rest'⟩, -, h⟩ := Json.eq_ok_of_bind h
  simp only at h
  split at h
  next inside =>
    cases h
    simpa only [Bool.and_eq_true, decide_eq_true_eq] using inside
  next => cases h

theorem digitValue?_lt {c : Char} {d : Nat} (h : digitValue? c = some d) : d < 10 := by
  unfold digitValue? at h
  split at h
  next digit =>
    cases h
    simp only [Bool.and_eq_true, decide_eq_true_eq, Char.le_def, UInt32.le_iff_toNat_le] at digit
    have high : c.toNat ≤ 57 := digit.2
    have zero : '0'.toNat = 48 := rfl
    omega
  next => cases h

theorem takeNumber_lt (most : Nat) (cs : List Char) :
    (takeNumber most cs).1.length ≤ most ∧ ∀ d ∈ (takeNumber most cs).1, d < 10 := by
  induction most generalizing cs with
  | zero => exact ⟨Nat.le_refl 0, fun d hd => absurd hd List.not_mem_nil⟩
  | succ most ih =>
    cases cs with
    | nil => exact ⟨Nat.zero_le _, fun d hd => absurd hd List.not_mem_nil⟩
    | cons c cs =>
      unfold takeNumber
      split
      next d hd =>
        obtain ⟨few, small⟩ := ih cs
        exact ⟨Nat.succ_le_succ few, List.forall_mem_cons.2 ⟨digitValue?_lt hd, small⟩⟩
      next => exact ⟨Nat.zero_le _, fun d hd => absurd hd List.not_mem_nil⟩

theorem appended_lt {ds : List Nat} (h : ∀ d ∈ ds, d < 10) (n : Nat) :
    appended n ds < (n + 1) * 10 ^ ds.length := by
  induction ds generalizing n with
  | nil => exact Nat.lt_of_lt_of_eq (Nat.lt_succ_self n) (Nat.mul_one _).symm
  | cons d ds ih =>
    obtain ⟨digit, digits⟩ := List.forall_mem_cons.1 h
    calc
      appended (n * 10 + d) ds < (n * 10 + d + 1) * 10 ^ ds.length := ih digits _
      _ ≤ (n + 1) * 10 * 10 ^ ds.length := Nat.mul_le_mul_right _ (by omega)
      _ = (n + 1) * 10 ^ (ds.length + 1) := by
        rw [Nat.pow_succ, Nat.mul_comm (10 ^ _) 10, Nat.mul_assoc]

theorem eq_of_valueOf {ds : List Nat} {n : Nat} (h : valueOf ds = .ok n) : n = appended 0 ds := by
  unfold valueOf at h
  simp only at h
  split at h
  · cases h
    rfl
  · cases h

theorem fraction_lt {n : Nat} {cs rest : List Char} (h : fraction cs = .ok (n, rest)) :
    n < 10 ^ 9 := by
  unfold fraction at h
  split at h
  · split at h
    · cases h
    next c cs =>
      obtain ⟨few, small⟩ := takeNumber_lt 9 (c :: cs)
      split at h
      · cases h
      next ds rest' _ taken =>
        rw [taken] at few small
        obtain ⟨k, value, h⟩ := Json.eq_ok_of_bind h
        cases h
        rw [eq_of_valueOf value]
        calc
          appended 0 ds * 10 ^ (9 - ds.length) < 10 ^ ds.length * 10 ^ (9 - ds.length) :=
            Nat.mul_lt_mul_of_pos_right
              (Nat.lt_of_lt_of_eq (appended_lt small 0) (Nat.one_mul _)) (Nat.pow_pos (by decide))
          _ = 10 ^ 9 := by rw [← Nat.pow_add, Nat.add_sub_cancel' few]
  · cases h
    exact Nat.pow_pos (by decide)

theorem OnCalendar.nextDay {t : Instant} (h : t.OnCalendar) : t.nextDay.OnCalendar := by
  unfold Instant.nextDay
  split
  next inside => exact { h with day_pos := Nat.le_add_left 1 _, day_le := inside }
  next =>
    split
    next month =>
      have days := daysIn_le t.year (t.month + 1)
      exact { h with
        month_pos := Nat.le_add_left 1 _, month_le := month
        day_pos := Nat.le_refl 1, day_le := Nat.le_trans (show 1 ≤ 28 by decide) days.1 }
    next =>
      have days := daysIn_le (t.year + 1) 1
      exact { h with
        month_pos := Nat.le_refl 1, month_le := show 1 ≤ 12 by decide
        day_pos := Nat.le_refl 1, day_le := Nat.le_trans (show 1 ≤ 28 by decide) days.1 }

theorem OnCalendar.previousDay {t : Instant} (h : t.OnCalendar) : t.previousDay.OnCalendar := by
  unfold Instant.previousDay
  split
  next day =>
    exact { h with
      day_pos := Nat.le_sub_one_of_lt day, day_le := Nat.le_trans (Nat.sub_le _ 1) h.day_le }
  next =>
    split
    next month =>
      have days := daysIn_le t.year (t.month - 1)
      exact { h with
        month_pos := Nat.le_sub_one_of_lt month, month_le := Nat.le_trans (Nat.sub_le _ 1) h.month_le
        day_pos := Nat.le_trans (show 1 ≤ 28 by decide) days.1, day_le := Nat.le_refl _ }
    next =>
      exact { h with
        month_pos := show 1 ≤ 12 by decide, month_le := Nat.le_refl 12
        day_pos := show 1 ≤ 31 by decide, day_le := Nat.le_refl 31 }

theorem OnCalendar.minusOffset {t : Instant} (h : t.OnCalendar) (offset : Int) :
    (t.minusOffset offset).OnCalendar := by
  unfold Instant.minusOffset
  have moved (total : Int) : OnCalendar { t with
      hour := (total % 1440 / 60).toNat, minute := (total % 1440 % 60).toNat } :=
    { h with
      hour := by
        change (total % 1440 / 60).toNat ≤ 23
        omega
      minute := by
        change (total % 1440 % 60).toNat ≤ 59
        omega }
  simp only
  split
  · exact (moved _).previousDay
  · split
    · exact (moved _).nextDay
    · exact moved _

/-- What a text names is proper. -/
theorem proper_of_ofText {s : String} {t : Instant} (h : ofText s = .ok t) : t.Proper := by
  unfold ofText at h
  obtain ⟨⟨year, cs⟩, -, h⟩ := Json.eq_ok_of_bind h
  obtain ⟨cs, -, h⟩ := Json.eq_ok_of_bind h
  obtain ⟨⟨month, cs⟩, months, h⟩ := Json.eq_ok_of_bind h
  obtain ⟨cs, -, h⟩ := Json.eq_ok_of_bind h
  obtain ⟨⟨day, cs⟩, days, h⟩ := Json.eq_ok_of_bind h
  obtain ⟨cs, -, h⟩ := Json.eq_ok_of_bind h
  obtain ⟨⟨hour, cs⟩, hours, h⟩ := Json.eq_ok_of_bind h
  obtain ⟨cs, -, h⟩ := Json.eq_ok_of_bind h
  obtain ⟨⟨minute, cs⟩, minutes, h⟩ := Json.eq_ok_of_bind h
  obtain ⟨cs, -, h⟩ := Json.eq_ok_of_bind h
  obtain ⟨⟨second, cs⟩, seconds, h⟩ := Json.eq_ok_of_bind h
  obtain ⟨⟨nanos, cs⟩, decimals, h⟩ := Json.eq_ok_of_bind h
  obtain ⟨⟨offset, cs⟩, -, h⟩ := Json.eq_ok_of_bind h
  simp only at h
  obtain ⟨month_pos, month_le⟩ := bounds_of_bounded months
  obtain ⟨day_pos, -⟩ := bounds_of_bounded days
  have minute_le := (bounds_of_bounded minutes).2
  have second_le := (bounds_of_bounded seconds).2
  have nanos_lt := fraction_lt decimals
  split at h
  · cases h
  · split at h
    · cases h
    next inside =>
      split at h
      · cases h
      · -- A second 60 is kept as second 59 with a second's worth of nanoseconds on top.
        have there : OnCalendar ⟨year, month, day, hour, minute,
            if (second == 60) = true then 59 else second,
            if (second == 60) = true then nanos + 10 ^ 9 else nanos⟩ := by
          simp only [Bool.or_eq_true, decide_eq_true_eq, not_or, Nat.not_lt] at inside
          refine ⟨month_pos, month_le, day_pos, inside.2, (bounds_of_bounded hours).2, minute_le,
            ?_, ?_⟩
          all_goals
            simp only [beq_iff_eq]
            split <;> omega
        have here := there.minusOffset offset
        generalize Instant.minusOffset _ offset = moved at h here
        split at h
        · cases h
        next years =>
          cases h
          simp only [Bool.or_eq_true, decide_eq_true_eq, not_or, Int.not_lt] at years
          exact { here with first := years.1, last := years.2 }

end ReplyPipeline.Instant
