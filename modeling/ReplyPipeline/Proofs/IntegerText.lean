import ReplyPipeline.Proofs.InstantText

/-!
# Whole numbers as they may be spelled

A whole number is spelled by digits, one at least, behind a sign or none. Reading a text as a number
gives exactly what the text spells, if that lies within the bounds; leading zeros and the number of
digits do not matter. What is written without leading zeros tells numbers apart.
-/
namespace ReplyPipeline.Decimal

/-- A character sequence spells a whole number. -/
inductive Spells : List Char → Int → Prop
  | digits {ds : List Char} : ds ≠ [] → IsNumeral ds → Spells ds (appended 0 (digitsOf ds))
  | plus {ds : List Char} : ds ≠ [] → IsNumeral ds → Spells ('+' :: ds) (appended 0 (digitsOf ds))
  | minus {ds : List Char} :
      ds ≠ [] → IsNumeral ds → Spells ('-' :: ds) (-(appended 0 (digitsOf ds) : Int))

/-- A number under a sign. -/
def signed (negative : Bool) (n : Nat) : Int := if negative then -(n : Int) else n

section Spelling

variable {cs ds : List Char} {m : Int}

theorem spells_plus_iff :
    Spells ('+' :: ds) m ↔
      ds ≠ [] ∧ IsNumeral ds ∧ m = signed false (appended 0 (digitsOf ds)) := by
  constructor
  · rintro (⟨-, numeral⟩ | ⟨some_, numeral⟩)
    · exact absurd numeral.of_cons.1 (by decide)
    · exact ⟨some_, numeral, rfl⟩
  · rintro ⟨some_, numeral, rfl⟩
    exact .plus some_ numeral

theorem spells_minus_iff :
    Spells ('-' :: ds) m ↔
      ds ≠ [] ∧ IsNumeral ds ∧ m = signed true (appended 0 (digitsOf ds)) := by
  constructor
  · rintro (⟨-, numeral⟩ | _ | ⟨some_, numeral⟩)
    · exact absurd numeral.of_cons.1 (by decide)
    · exact ⟨some_, numeral, rfl⟩
  · rintro ⟨some_, numeral, rfl⟩
    exact .minus some_ numeral

theorem spells_iff_of_unsigned (plus : ∀ ds, cs ≠ '+' :: ds) (minus : ∀ ds, cs ≠ '-' :: ds) :
    Spells cs m ↔ cs ≠ [] ∧ IsNumeral cs ∧ m = signed false (appended 0 (digitsOf cs)) := by
  constructor
  · intro spelled
    cases spelled with
    | digits some_ numeral => exact ⟨some_, numeral, rfl⟩
    | plus => exact absurd rfl (plus _)
    | minus => exact absurd rfl (minus _)
  · rintro ⟨some_, numeral, rfl⟩
    exact .digits some_ numeral

/-- A character sequence spells one number at most. -/
theorem Spells.unique {n : Int} (h : Spells cs m) (h' : Spells cs n) : m = n := by
  cases h with
  | digits _ numeral =>
    cases h' with
    | digits => rfl
    | plus => exact absurd numeral.of_cons.1 (by decide)
    | minus => exact absurd numeral.of_cons.1 (by decide)
  | plus _ _ =>
    cases h' with
    | digits _ numeral => exact absurd numeral.of_cons.1 (by decide)
    | plus => rfl
  | minus _ _ =>
    cases h' with
    | digits _ numeral => exact absurd numeral.of_cons.1 (by decide)
    | minus => rfl

end Spelling

theorem digitValue?_of_not_isDigit {c : Char} (h : c.isDigit = false) : digitValue? c = none := by
  unfold digitValue?
  rw [if_neg]
  intro bounds
  simp only [Bool.and_eq_true, decide_eq_true_eq, Char.le_def] at bounds
  have digit : c.isDigit = true := by
    simp only [Char.isDigit, Bool.and_eq_true, decide_eq_true_eq]
    exact bounds
  rw [h] at digit
  cases digit

section Digits

variable {w : Width} (low : w.low ≤ 0) (high : 0 ≤ w.high)
include low high

/-- The number that has been read so far does not get smaller, so that the bounds are kept at the
end exactly if they are kept at every digit. -/
theorem readDigits_eq_ok_iff (negative : Bool) {ds : List Char} {n : Nat} {m : Int}
    (held : w.holds (signed negative n) = true) :
    readDigits w negative (signed negative n) ds = .ok m ↔
      IsNumeral ds ∧ m = signed negative (appended n (digitsOf ds)) ∧ w.holds m = true := by
  induction ds generalizing n with
  | nil =>
    constructor
    · intro read
      cases read
      exact ⟨nofun, rfl, held⟩
    · rintro ⟨-, rfl, -⟩
      rfl
  | cons c ds ih =>
    cases digit : c.isDigit with
    | false =>
      simp only [readDigits, digitValue?_of_not_isDigit digit, reduceCtorEq, false_iff]
      rintro ⟨numeral, -⟩
      rw [numeral.of_cons.1] at digit
      cases digit
    | true =>
      have next : (if negative then signed negative n * 10 - ((c.toNat - 48 : Nat) : Int)
          else signed negative n * 10 + ((c.toNat - 48 : Nat) : Int)) =
          signed negative (n * 10 + (c.toNat - 48)) := by
        cases negative <;> simp only [signed, Bool.false_eq_true, if_true, if_false] <;> omega
      have numeral : IsNumeral (c :: ds) ↔ IsNumeral ds :=
        ⟨fun h => h.of_cons.2, fun h => List.forall_mem_cons.2 ⟨digit, h⟩⟩
      have grows := le_appended (n * 10 + (c.toNat - 48)) (digitsOf ds)
      simp only [readDigits, Instant.digitValue?_of_isDigit digit, next, numeral]
      change _ ↔ IsNumeral ds ∧
        m = signed negative (appended (n * 10 + (c.toNat - 48)) (digitsOf ds)) ∧ _
      by_cases inside : w.holds (signed negative (n * 10 + (c.toNat - 48))) = true
      · rw [← ih inside]
        simp only [Width.holds, Bool.and_eq_true, decide_eq_true_eq] at inside
        rw [if_neg (by omega), if_neg (by omega)]
      · have outside : ¬(IsNumeral ds ∧
            m = signed negative (appended (n * 10 + (c.toNat - 48)) (digitsOf ds)) ∧
            w.holds m = true) := by
          rintro ⟨-, rfl, within⟩
          simp only [Width.holds, Bool.and_eq_true, decide_eq_true_eq] at inside within
          cases negative <;>
            simp only [signed, Bool.false_eq_true, if_true, if_false] at inside within <;> omega
        simp only [outside, iff_false]
        split
        · nofun
        · split
          · nofun
          next small large =>
            simp only [Width.holds, Bool.and_eq_true, decide_eq_true_eq] at inside
            omega

/-- What is read as a number is what is spelled, within the bounds. A width without sign takes no
minus sign, not even before a zero. -/
theorem readInteger_eq_ok_iff_spells {s : String} {m : Int} :
    readInteger w s = .ok m ↔
      Spells s.toList m ∧ (w.signed = false → s.toList.head? ≠ some '-') ∧ w.holds m = true := by
  have read (negative : Bool) (ds : List Char) :
      readDigits w negative 0 ds = .ok m ↔
        IsNumeral ds ∧ m = signed negative (appended 0 (digitsOf ds)) ∧ w.holds m = true := by
    have start : (0 : Int) = signed negative 0 := by cases negative <;> rfl
    have zero : w.holds 0 = true := by simp [Width.holds, low, high]
    rw [start] at zero ⊢
    exact readDigits_eq_ok_iff low high negative zero
  unfold readInteger
  split
  next empty =>
    rw [empty, spells_iff_of_unsigned (by simp) (by simp)]
    simp
  next alone =>
    rw [alone, spells_plus_iff]
    simp
  next alone =>
    rw [alone, spells_minus_iff]
    simp
  next ds some_ behind =>
    rw [behind, read, spells_plus_iff, and_assoc, and_assoc]
    simp [show ds ≠ [] from some_]
  next ds some_ behind =>
    rw [behind]
    cases sign : w.signed with
    | true =>
      rw [if_pos rfl, read, spells_minus_iff, and_assoc, and_assoc]
      simp [show ds ≠ [] from some_]
    | false => simp
  next some_ _ _ plus minus =>
    have head : s.toList.head? ≠ some '-' := by
      intro first
      obtain ⟨ds, behind⟩ := List.head?_eq_some_iff.1 first
      exact minus ds behind
    rw [read, spells_iff_of_unsigned plus minus, and_assoc, and_assoc]
    simp [show s.toList ≠ [] from some_, head]

theorem readInteger_eq_ok_iff (sign : w.signed = true) {s : String} {m : Int} :
    readInteger w s = .ok m ↔ Spells s.toList m ∧ w.holds m = true := by
  rw [readInteger_eq_ok_iff_spells low high]
  simp [sign]

end Digits

theorem natText_injective : Function.Injective natText := by
  intro m n same
  calc
    m = appended 0 (digitsOf (natText m)) := (appended_digitsOf_natText m).symm
    _ = appended 0 (digitsOf (natText n)) := by rw [same]
    _ = n := appended_digitsOf_natText n

theorem not_mem_natText {c : Char} (h : c.isDigit = false) (n : Nat) : c ∉ natText n := by
  intro digit
  rw [isNumeral_natText n c digit] at h
  cases h

theorem intText_injective : Function.Injective intText := by
  have minus (n : Nat) : '-' ∉ natText n := not_mem_natText rfl n
  intro m n same
  cases m with
  | ofNat m =>
    cases n with
    | ofNat n => exact congrArg Int.ofNat (natText_injective same)
    | negSucc n =>
      have sign : natText m = '-' :: natText (n + 1) := same
      exact absurd (sign ▸ List.mem_cons_self) (minus m)
  | negSucc m =>
    cases n with
    | ofNat n =>
      have sign : natText n = '-' :: natText (m + 1) := same.symm
      exact absurd (sign ▸ List.mem_cons_self) (minus n)
    | negSucc n =>
      have digits := natText_injective (List.tail_eq_of_cons_eq same)
      exact congrArg Int.negSucc (Nat.succ.inj digits)

theorem not_mem_intText {c : Char} (digit : c.isDigit = false) (minus : c ≠ '-') (n : Int) :
    c ∉ intText n := by
  cases n with
  | ofNat n => exact not_mem_natText digit n
  | negSucc n => simp [intText, minus, not_mem_natText digit]

end ReplyPipeline.Decimal
