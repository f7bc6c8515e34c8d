import ReplyPipeline.Text.Utf8

/-!
# What is written in UTF-8 reads back

`scan` gives the characters of an encoded text and finds nothing ill formed in it. The octets of a
character are told apart by how many there are, as `String.utf8EncodeChar` does.
-/
namespace ReplyPipeline.Text.Utf8

variable {n : Nat} {p : Partial} {rest : Bytes}

theorem toNat_ofNat_octet (h : n < 256) : (UInt8.ofNat n).toNat = n := Nat.mod_eq_of_lt h

theorem scanFrom_some_of_more (h : n < 256) (low : p.low.toNat ≤ n) (high : n ≤ p.high.toNat)
    (more : 1 < p.missing) :
    scanFrom (some p) (UInt8.ofNat n :: rest) =
      scanFrom (some ⟨p.missing - 1, 0x80, 0xBF, p.value * 64 + (n - 0x80)⟩) rest := by
  have inside : (p.low ≤ UInt8.ofNat n && UInt8.ofNat n ≤ p.high) = true := by
    simp only [UInt8.le_iff_toNat_le, toNat_ofNat_octet h, low, high, decide_true, Bool.and_true]
  simp only [scanFrom, inside, if_true, Nat.not_le.2 more, if_false, Partial.push,
    toNat_ofNat_octet h]

theorem scanFrom_some_of_last (h : n < 256) (low : p.low.toNat ≤ n) (high : n ≤ p.high.toNat)
    (last : p.missing ≤ 1) :
    scanFrom (some p) (UInt8.ofNat n :: rest) =
      some (Char.ofNat (p.value * 64 + (n - 0x80))) :: scanFrom none rest := by
  have inside : (p.low ≤ UInt8.ofNat n && UInt8.ofNat n ≤ p.high) = true := by
    simp only [UInt8.le_iff_toNat_le, toNat_ofNat_octet h, low, high, decide_true, Bool.and_true]
  simp only [scanFrom, inside, if_true, last, Partial.push, toNat_ofNat_octet h]

theorem scanFrom_none_of_begun (h : Lead.ofByte (UInt8.ofNat n) = .begun p) :
    scanFrom none (UInt8.ofNat n :: rest) = scanFrom (some p) rest := by
  simp only [scanFrom, h]

theorem ofByte_ofNat_of_two (low : 0xC2 ≤ n) (high : n < 0xE0) :
    Lead.ofByte (UInt8.ofNat n) = .begun ⟨1, 0x80, 0xBF, n - 0xC0⟩ := by
  have all : ∀ k < 30, Lead.ofByte (UInt8.ofNat (0xC2 + k)) =
      .begun ⟨1, 0x80, 0xBF, 0xC2 + k - 0xC0⟩ := by decide
  obtain ⟨k, rfl⟩ := Nat.exists_eq_add_of_le low
  exact all k (by omega)

theorem ofByte_ofNat_of_three (low : 0xE0 ≤ n) (high : n < 0xF0) :
    Lead.ofByte (UInt8.ofNat n) = .begun ⟨2, if n = 0xE0 then 0xA0 else 0x80,
      if n = 0xED then 0x9F else 0xBF, n - 0xE0⟩ := by
  have all : ∀ k < 16, Lead.ofByte (UInt8.ofNat (0xE0 + k)) =
      .begun ⟨2, if 0xE0 + k = 0xE0 then 0xA0 else 0x80,
        if 0xE0 + k = 0xED then 0x9F else 0xBF, 0xE0 + k - 0xE0⟩ := by decide
  obtain ⟨k, rfl⟩ := Nat.exists_eq_add_of_le low
  exact all k (by omega)

theorem ofByte_ofNat_of_four (low : 0xF0 ≤ n) (high : n ≤ 0xF4) :
    Lead.ofByte (UInt8.ofNat n) = .begun ⟨3, if n = 0xF0 then 0x90 else 0x80,
      if n = 0xF4 then 0x8F else 0xBF, n - 0xF0⟩ := by
  have all : ∀ k < 5, Lead.ofByte (UInt8.ofNat (0xF0 + k)) =
      .begun ⟨3, if 0xF0 + k = 0xF0 then 0x90 else 0x80,
        if 0xF0 + k = 0xF4 then 0x8F else 0xBF, 0xF0 + k - 0xF0⟩ := by decide
  obtain ⟨k, rfl⟩ := Nat.exists_eq_add_of_le low
  exact all k (by omega)

/-- An encoded character is read as what it is. -/
theorem scan_utf8EncodeChar_append (c : Char) (bs : Bytes) :
    scan (String.utf8EncodeChar c ++ bs) = some c :: scan bs := by
  have valid : c.val.toNat.isValidChar := c.valid
  have same : Char.ofNat c.val.toNat = c := Char.ofNat_toNat c
  unfold String.utf8EncodeChar scan
  generalize c.val.toNat = v at valid same
  subst same
  unfold Nat.isValidChar at valid
  simp only
  split
  · have value : (UInt8.ofNat v).toNat = v := toNat_ofNat_octet (by omega)
    have small : UInt8.ofNat v < 0x80 := by
      rw [UInt8.lt_iff_toNat_lt, value]
      exact Nat.lt_succ_of_le ‹v ≤ 127›
    simp only [List.cons_append, List.nil_append, scanFrom, Lead.ofByte, small, if_true, value]
  · split
    · have first := ofByte_ofNat_of_two (n := v / 64 % 32 + 192) (by omega) (by omega)
      rw [List.cons_append, scanFrom_none_of_begun first, List.cons_append,
        scanFrom_some_of_last (by omega) (by simp) (by simp; omega) (by simp)]
      refine congrArg (fun k => some (Char.ofNat k) :: scanFrom none bs) ?_
      simp only
      omega
    · split
      · have first := ofByte_ofNat_of_three (n := v / 4096 % 16 + 224) (by omega) (by omega)
        rw [List.cons_append, scanFrom_none_of_begun first, List.cons_append,
          scanFrom_some_of_more (by omega) ?_ ?_ (by simp), List.cons_append,
          scanFrom_some_of_last (by omega) (by simp) (by simp; omega) (by simp)]
        · refine congrArg (fun k => some (Char.ofNat k) :: scanFrom none bs) ?_
          simp only
          omega
        · simp only
          (split <;> simp); omega
        · simp only
          split <;> simp <;> omega
      · have first := ofByte_ofNat_of_four (n := v / 262144 % 8 + 240) (by omega) (by omega)
        rw [List.cons_append, scanFrom_none_of_begun first, List.cons_append,
          scanFrom_some_of_more (by omega) ?_ ?_ (by simp), List.cons_append,
          scanFrom_some_of_more (by omega) (by simp) (by simp; omega) (by simp), List.cons_append,
          scanFrom_some_of_last (by omega) (by simp) (by simp; omega) (by simp)]
        · refine congrArg (fun k => some (Char.ofNat k) :: scanFrom none bs) ?_
          simp only
          omega
        · simp only
          (split <;> simp); omega
        · simp only
          split <;> simp <;> omega

@[simp] theorem encode_nil : encode [] = [] := rfl

@[simp] theorem encode_cons (c : Char) (cs : List Char) :
    encode (c :: cs) = String.utf8EncodeChar c ++ encode cs := rfl

@[simp] theorem encode_append (cs ds : List Char) : encode (cs ++ ds) = encode cs ++ encode ds :=
  List.flatMap_append

theorem scan_encode (cs : List Char) : scan (encode cs) = cs.map some := by
  induction cs with
  | nil => rfl
  | cons c cs ih => rw [encode_cons, scan_utf8EncodeChar_append, ih, List.map_cons]

theorem decode?_encode (cs : List Char) : decode? (encode cs) = some (String.ofList cs) := by
  have characters : (cs.map some).mapM id = some cs := by
    induction cs with
    | nil => rfl
    | cons c cs ih => simp [List.mapM_cons, ih]
  rw [decode?, scan_encode, characters]
  rfl

end ReplyPipeline.Text.Utf8
