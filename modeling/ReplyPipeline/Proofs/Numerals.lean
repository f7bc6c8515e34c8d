import ReplyPipeline.Json.Lexeme
import ReplyPipeline.Proofs.Characters

/-!
# Numerals

The digits of a whole number are read one by one until something else follows. Of more digits than
64 bits hold those behind are left out, and what is kept is not more than what was written.
-/
namespace ReplyPipeline

open Text.Utf8 (encode)

namespace Decimal

/-- Nothing but decimal digits. -/
def IsNumeral (cs : List Char) : Prop := ∀ c ∈ cs, c.isDigit = true

/-- The values of decimal digits. -/
def digitsOf (cs : List Char) : List Nat := cs.map fun c => c.toNat - 48

/-- The number that digits make behind a number. -/
def appended (n : Nat) (ds : List Nat) : Nat := ds.foldl (fun n d => n * 10 + d) n

theorem toNat_of_isDigit {c : Char} (h : c.isDigit = true) : 48 ≤ c.toNat ∧ c.toNat ≤ 57 := by
  simp only [Char.isDigit, Bool.and_eq_true, decide_eq_true_eq, ge_iff_le,
    UInt32.le_iff_toNat_le] at h
  exact h

theorem isNumeral_natText (n : Nat) : IsNumeral (natText n) := fun _ hc =>
  Nat.isDigit_of_mem_toDigits (by omega) (Nat.le_refl 10) hc

theorem isNumeral_replicate (n : Nat) : IsNumeral (List.replicate n '0') := by
  intro c hc
  rw [(List.mem_replicate.1 hc).2]
  rfl

theorem IsNumeral.append {cs ds : List Char} (hc : IsNumeral cs) (hd : IsNumeral ds) :
    IsNumeral (cs ++ ds) := by
  intro c h
  rcases List.mem_append.1 h with h | h
  · exact hc c h
  · exact hd c h

theorem IsNumeral.of_cons {c : Char} {cs : List Char} (h : IsNumeral (c :: cs)) :
    c.isDigit = true ∧ IsNumeral cs := List.forall_mem_cons.1 h

theorem appended_digitsOf (n : Nat) (cs : List Char) :
    appended n (digitsOf cs) = Nat.ofDigitChars 10 cs n := by
  induction cs generalizing n with
  | nil => rfl
  | cons c cs ih =>
    rw [Nat.ofDigitChars_cons, ← ih, Nat.mul_comm 10 n]
    rfl

@[simp] theorem appended_digitsOf_natText (n : Nat) : appended 0 (digitsOf (natText n)) = n := by
  rw [appended_digitsOf, natText, Nat.ofDigitChars_ten_toDigits]

theorem le_appended (n : Nat) (ds : List Nat) : n ≤ appended n ds := by
  induction ds generalizing n with
  | nil => exact Nat.le_refl n
  | cons d ds ih => exact Nat.le_trans (by omega) (ih (n * 10 + d))

theorem appended_append (n : Nat) (ds es : List Nat) :
    appended n (ds ++ es) = appended (appended n ds) es := List.foldl_append

theorem mul_pow_le_appended (n : Nat) (ds : List Nat) : n * 10 ^ ds.length ≤ appended n ds := by
  induction ds generalizing n with
  | nil => exact Nat.le_of_eq (Nat.mul_one n)
  | cons d ds ih =>
    calc
      n * 10 ^ (ds.length + 1) = n * 10 * 10 ^ ds.length := by
        rw [Nat.pow_succ, Nat.mul_comm _ 10, Nat.mul_assoc]
      _ ≤ (n * 10 + d) * 10 ^ ds.length := Nat.mul_le_mul_right _ (Nat.le_add_right _ d)
      _ ≤ appended (n * 10 + d) ds := ih _

/-- No numeral but that of zero begins with a zero. -/
theorem natText_eq_cons {n : Nat} (h : 0 < n) :
    ∃ c cs, natText n = c :: cs ∧ c ≠ '0' := by
  induction n using Nat.strongRecOn with
  | ind n ih =>
    by_cases small : n < 10
    · refine ⟨n.digitChar, [], Nat.toDigits_of_lt_base small, ?_⟩
      have all : ∀ k < 10, 0 < k → Nat.digitChar k ≠ '0' := by decide
      exact all n small h
    · obtain ⟨c, cs, hc, nonzero⟩ := ih (n / 10) (by omega) (by omega)
      refine ⟨c, cs ++ [Nat.digitChar (n % 10)], ?_, nonzero⟩
      rw [natText, Nat.toDigits_of_base_le (by omega) (by omega)]
      change natText (n / 10) ++ _ = _
      rw [hc]
      rfl

end Decimal

namespace Json

open Decimal (IsNumeral digitsOf appended natText)

/-- No number goes on here. -/
def Ends (rest : Bytes) : Prop :=
  ∀ b ∈ rest.head?, isDigit b = false ∧ b ≠ octet '.' ∧ b ≠ octet 'e' ∧ b ≠ octet 'E'

/-- No numeral goes on here. -/
def EndsDigits (rest : Bytes) : Prop := ∀ b ∈ rest.head?, isDigit b = false

theorem Ends.digits {rest : Bytes} (h : Ends rest) : EndsDigits rest := fun b hb => (h b hb).1

section Digits

variable {cs : List Char} {rest : Bytes} {c : Char}

theorem encode_digit (h : c.isDigit = true) :
    String.utf8EncodeChar c = [octet c] ∧ isDigit (octet c) = true ∧
      (octet c).toNat - 0x30 = c.toNat - 48 ∧ (octet c = octet '0' → c = '0') := by
  obtain ⟨low, high⟩ := Decimal.toNat_of_isDigit h
  have all : ∀ n < 58, 48 ≤ n → String.utf8EncodeChar (Char.ofNat n) = [octet (Char.ofNat n)] ∧
      isDigit (octet (Char.ofNat n)) = true ∧
      (octet (Char.ofNat n)).toNat - 0x30 = (Char.ofNat n).toNat - 48 ∧
      (octet (Char.ofNat n) = octet '0' → Char.ofNat n = '0') := by decide
  have here := all c.toNat (by omega) low
  rwa [Char.ofNat_toNat] at here

theorem encode_numeral (h : IsNumeral cs) : encode cs = cs.map octet := by
  induction cs with
  | nil => rfl
  | cons c cs ih =>
    obtain ⟨hc, hcs⟩ := h.of_cons
    rw [Text.Utf8.encode_cons, (encode_digit hc).1, ih hcs]
    rfl

theorem takeDigits_encode (h : IsNumeral cs) (ends : EndsDigits rest) :
    takeDigits (encode cs ++ rest) = (digitsOf cs, rest) := by
  have all : ∀ b ∈ cs.map octet, isDigit b = true := by
    intro b hb
    obtain ⟨c, hc, rfl⟩ := List.mem_map.1 hb
    exact (encode_digit (h c hc)).2.1
  have taken : rest.takeWhile isDigit = [] := by
    cases rest with
    | nil => rfl
    | cons b bs => rw [List.takeWhile_cons, ends b rfl]; rfl
  have dropped : rest.dropWhile isDigit = rest := by
    cases rest with
    | nil => rfl
    | cons b bs => rw [List.dropWhile_cons, ends b rfl]; rfl
  have values : (cs.map octet).map (fun b => b.toNat - 0x30) = digitsOf cs := by
    rw [List.map_map]
    exact List.map_congr_left fun c hc => (encode_digit (h c hc)).2.2.1
  unfold takeDigits
  rw [encode_numeral h, List.takeWhile_append_of_pos all, List.dropWhile_append_of_pos all, taken,
    dropped, List.append_nil, values]

theorem appendDigits_of_lt {n : Nat} {ds : List Nat} (h : appended n ds < 2 ^ 64) :
    appendDigits n ds = (appended n ds, ds.length) := by
  induction ds generalizing n with
  | nil => rfl
  | cons d ds ih =>
    have here : n * 10 + d < 2 ^ 64 := Nat.lt_of_le_of_lt (Decimal.le_appended _ ds) h
    rw [appendDigits, if_pos here, ih h]
    rfl

theorem appendDigits_le {n : Nat} (h : n < 2 ^ 64) (ds : List Nat) :
    (appendDigits n ds).1 < 2 ^ 64 ∧ (appendDigits n ds).2 ≤ ds.length ∧
      (appendDigits n ds).1 * 10 ^ (ds.length - (appendDigits n ds).2) ≤ appended n ds := by
  induction ds generalizing n with
  | nil => exact ⟨h, Nat.le_refl 0, Nat.le_of_eq (Nat.mul_one n)⟩
  | cons d ds ih =>
    rw [appendDigits]
    split
    · obtain ⟨small, taken, bound⟩ := ih ‹_›
      refine ⟨small, Nat.succ_le_succ taken, ?_⟩
      rw [List.length_cons, Nat.succ_sub_succ]
      exact bound
    · exact ⟨h, Nat.zero_le _, Decimal.mul_pow_le_appended n (d :: ds)⟩

/-- The digits in front of a number, which are a zero or begin with none. -/
theorem readUnsigned_encode (negative : Bool) (h : IsNumeral (c :: cs))
    (leading : c = '0' → cs = []) (ends : EndsDigits rest) :
    readUnsigned negative (encode (c :: cs) ++ rest) =
      readAfterDigits negative (digitsOf (c :: cs)) rest := by
  obtain ⟨hc, hcs⟩ := h.of_cons
  obtain ⟨octets, digit, -, zero⟩ := encode_digit hc
  have shape : encode (c :: cs) ++ rest = octet c :: (encode cs ++ rest) := by
    rw [Text.Utf8.encode_cons, octets]
    rfl
  have taken := takeDigits_encode h ends
  rw [shape] at taken ⊢
  unfold readUnsigned
  by_cases h0 : c = '0'
  · subst h0
    rw [leading rfl]
    simp only [beq_self_eq_true, if_true, Text.Utf8.encode_nil, List.nil_append]
    cases rest with
    | nil => rfl
    | cons b bs =>
      simp only [ends b rfl, Bool.false_eq_true, if_false]
      rfl
  · have first : (octet c == octet '0') = false := by
      rw [beq_eq_false_iff_ne]
      exact fun same => h0 (zero same)
    simp only [first, Bool.false_eq_true, if_false, digit, if_true, taken]

theorem readUnsigned_natText (negative : Bool) (n : Nat) (ends : EndsDigits rest) :
    readUnsigned negative (encode (natText n) ++ rest) =
      readAfterDigits negative (digitsOf (natText n)) rest := by
  have numeral := Decimal.isNumeral_natText n
  rcases Nat.eq_zero_or_pos n with rfl | positive
  · exact readUnsigned_encode negative numeral (fun _ => rfl) ends
  · obtain ⟨c, cs, hc, nonzero⟩ := Decimal.natText_eq_cons positive
    rw [hc] at numeral ⊢
    exact readUnsigned_encode negative numeral (fun h => absurd h nonzero) ends

theorem readNumber_of_digit (h : c.isDigit = true) (bs : Bytes) :
    readNumber (octet c :: bs) = readUnsigned false (octet c :: bs) := by
  have digit := (encode_digit h).2.1
  have plain : (octet c == octet '-') = false := by
    rw [beq_eq_false_iff_ne]
    intro same
    rw [same] at digit
    exact absurd digit (by decide)
  simp only [readNumber, plain, Bool.false_eq_true, if_false]

theorem readNumber_minus (bs : Bytes) : readNumber (octet '-' :: bs) = readUnsigned true bs := by
  simp only [readNumber, beq_self_eq_true, if_true]

theorem readAfterDigits_of_ends {negative : Bool} {ds : List Nat} (h : appended 0 ds < 2 ^ 64)
    (ends : Ends rest) (fits : negative = true → appended 0 ds ≠ 0 ∧ appended 0 ds ≤ 2 ^ 63) :
    readAfterDigits negative ds rest =
      .ok (.integer (if negative then -(appended 0 ds : Int) else appended 0 ds), rest) := by
  have kept := appendDigits_of_lt h
  unfold readAfterDigits
  simp only [kept, Nat.sub_self, bne_self_eq_false, Bool.false_eq_true, if_false]
  have plain : (if (!negative) = true then
        (.ok (Number.integer (appended 0 ds), rest) : Except Fault (Number × Bytes))
      else if (appended 0 ds == 0 || decide (2 ^ 63 < appended 0 ds)) = true then
        realOfParts true (appended 0 ds) 0 rest
      else .ok (.integer (-(appended 0 ds : Int)), rest)) =
      .ok (.integer (if negative then -(appended 0 ds : Int) else appended 0 ds), rest) := by
    cases negative with
    | false => rfl
    | true =>
      obtain ⟨nonzero, bound⟩ := fits rfl
      have inside : (appended 0 ds == 0 || decide (2 ^ 63 < appended 0 ds)) = false := by
        simp only [Bool.or_eq_false_iff, beq_eq_false_iff_ne, decide_eq_false_iff_not]
        exact ⟨nonzero, by omega⟩
      rw [inside]
      rfl
  cases rest with
  | nil => exact plain
  | cons b bs =>
    obtain ⟨-, point, small, large⟩ := ends b rfl
    simp only [beq_eq_false_iff_ne.2 point, beq_eq_false_iff_ne.2 small,
      beq_eq_false_iff_ne.2 large, Bool.or_false, Bool.false_eq_true, if_false]
    exact plain

end Digits

/-- A whole number of 64 bits reads back. -/
theorem readNumber_intText {n : Int} (low : -2 ^ 63 ≤ n) (high : n < 2 ^ 64) {rest : Bytes}
    (ends : Ends rest) :
    readNumber (encode (Decimal.intText n) ++ rest) = .ok (.integer n, rest) := by
  cases n with
  | ofNat n =>
    have numeral := Decimal.isNumeral_natText n
    have signless : readNumber (encode (natText n) ++ rest) =
        readUnsigned false (encode (natText n) ++ rest) := by
      cases hc : natText n with
      | nil => exact absurd hc Nat.toDigits_ne_nil
      | cons c cs =>
        rw [hc] at numeral
        obtain ⟨hc', -⟩ := numeral.of_cons
        rw [Text.Utf8.encode_cons, (encode_digit hc').1]
        exact readNumber_of_digit hc' _
    change readNumber (encode (natText n) ++ rest) = _
    rw [signless, readUnsigned_natText false n ends.digits, readAfterDigits_of_ends ?_ ends ?_,
      Decimal.appended_digitsOf_natText]
    · rfl
    · rw [Decimal.appended_digitsOf_natText]
      exact Int.ofNat_lt.1 high
    · exact fun h => absurd h Bool.false_ne_true
  | negSucc n =>
    have bound : n + 1 ≤ 2 ^ 63 := by
      have := low
      omega
    have minus : encode (Decimal.intText (.negSucc n)) ++ rest =
        octet '-' :: (encode (natText (n + 1)) ++ rest) := rfl
    rw [minus, readNumber_minus, readUnsigned_natText true (n + 1) ends.digits,
      readAfterDigits_of_ends ?_ ends ?_, Decimal.appended_digitsOf_natText]
    · rfl
    · rw [Decimal.appended_digitsOf_natText]
      omega
    · rw [Decimal.appended_digitsOf_natText]
      exact fun _ => ⟨Nat.succ_ne_zero n, bound⟩

end Json
end ReplyPipeline
