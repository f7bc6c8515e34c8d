import ReplyPipeline.Json.Lexeme
import ReplyPipeline.Proofs.Characters

/-!
# Texts and words in JSON

A text reads back as it was quoted, whatever its characters: the reader sees those that need no
escape octet by octet, and an escape as one character.
-/
namespace ReplyPipeline.Json

open Text.Utf8 (encode)

/-- What stands in a text for itself. -/
def IsPlain (b : UInt8) : Prop := b ≠ octet '"' ∧ b ≠ octet '\\' ∧ 0x20 ≤ b

section Escapes

variable {reversed rest : Bytes}

theorem readOctets_of_isPlain {b : UInt8} (h : IsPlain b) :
    readOctets reversed (b :: rest) = readOctets (b :: reversed) rest := by
  obtain ⟨quote, backslash, printable⟩ := h
  have space : ¬ b < 0x20 := UInt8.not_lt.2 printable
  rw [readOctets.eq_def]
  simp only [beq_iff_eq, quote, backslash, space, if_false]

theorem readOctets_append_of_isPlain {bs : Bytes} (h : ∀ b ∈ bs, IsPlain b) :
    readOctets reversed (bs ++ rest) = readOctets (bs.reverse ++ reversed) rest := by
  induction bs generalizing reversed with
  | nil => rfl
  | cons b bs ih =>
    obtain ⟨hb, hbs⟩ := List.forall_mem_cons.1 h
    rw [List.cons_append, readOctets_of_isPlain hb, ih hbs, List.reverse_cons, List.append_assoc]
    rfl

theorem readOctets_simpleEscape {e o : UInt8} (h : simpleEscape? e = some o) :
    readOctets reversed (octet '\\' :: e :: rest) = readOctets (o :: reversed) rest := by
  have quote : (octet '\\' == octet '"') = false := by decide
  rw [readOctets.eq_def]
  simp only [quote, Bool.false_eq_true, if_false, beq_self_eq_true, if_true, h]

theorem readOctets_unicodeEscape {a b c d : UInt8} {n : Nat} (h : hexValues? a b c d = some n)
    (low : n < 0xD800) :
    readOctets reversed (octet '\\' :: octet 'u' :: a :: b :: c :: d :: rest) =
      readOctets (pushChar n reversed) rest := by
  have quote : (octet '\\' == octet '"') = false := by decide
  have long : simpleEscape? (octet 'u') = none := by decide
  have unicode : (octet 'u' != octet 'u') = false := by decide
  have trailing : isTrailing n = false := by
    simp only [isTrailing, Bool.and_eq_false_iff, decide_eq_false_iff_not]
    omega
  have leading : isLeading n = false := by
    simp only [isLeading, Bool.and_eq_false_iff, decide_eq_false_iff_not]
    omega
  rw [readOctets.eq_def]
  simp only [quote, Bool.false_eq_true, if_false, beq_self_eq_true, if_true, long, unicode, h,
    trailing, leading, Bool.not_false]

theorem isPlain_of_mem_utf8EncodeChar {c : Char} (quote : c ≠ '"') (backslash : c ≠ '\\')
    (printable : 0x20 ≤ c.toNat) {b : UInt8} (hb : b ∈ String.utf8EncodeChar c) : IsPlain b := by
  have quoteValue : c.toNat ≠ 0x22 := fun h => quote (Char.toNat_inj.1 h)
  have backslashValue : c.toNat ≠ 0x5C := fun h => backslash (Char.toNat_inj.1 h)
  have plain (n : Nat) (small : n < 256) (h : n ≠ 0x22) (h' : n ≠ 0x5C) (h'' : 0x20 ≤ n)
      (hn : b = UInt8.ofNat n) : IsPlain b := by
    have value : b.toNat = n := by rw [hn]; exact Text.Utf8.toNat_ofNat_octet small
    refine ⟨fun hq => h ?_, fun hq => h' ?_, ?_⟩
    · rw [← value, hq]; rfl
    · rw [← value, hq]; rfl
    · rw [UInt8.le_iff_toNat_le, value]; exact h''
  unfold String.utf8EncodeChar at hb
  unfold Char.toNat at quoteValue backslashValue printable
  simp only at hb
  split at hb
  · exact plain _ (by omega) quoteValue backslashValue printable (List.mem_singleton.1 hb)
  · split at hb
    · simp only [List.mem_cons, List.not_mem_nil, or_false] at hb
      rcases hb with h | h <;> exact plain _ (by omega) (by omega) (by omega) (by omega) h
    · split at hb
      · simp only [List.mem_cons, List.not_mem_nil, or_false] at hb
        rcases hb with h | h | h <;> exact plain _ (by omega) (by omega) (by omega) (by omega) h
      · simp only [List.mem_cons, List.not_mem_nil, or_false] at hb
        rcases hb with h | h | h | h <;>
          exact plain _ (by omega) (by omega) (by omega) (by omega) h

theorem encode_controlEscape {n : Nat} (h : n < 0x20) :
    encode ['\\', 'u', '0', '0', hexDigit (n / 16), hexDigit n] =
        [octet '\\', octet 'u', octet '0', octet '0', octet (hexDigit (n / 16)),
          octet (hexDigit n)] ∧
      hexValues? (octet '0') (octet '0') (octet (hexDigit (n / 16))) (octet (hexDigit n)) =
        some n := by
  revert n
  decide

theorem readOctets_escapeChar (c : Char) :
    readOctets reversed (encode (escapeChar c) ++ rest) =
      readOctets ((String.utf8EncodeChar c).reverse ++ reversed) rest := by
  unfold escapeChar
  split
  · exact readOctets_simpleEscape (e := octet '"') rfl
  · exact readOctets_simpleEscape (e := octet '\\') rfl
  · exact readOctets_simpleEscape (e := octet 'b') rfl
  · exact readOctets_simpleEscape (e := octet 't') rfl
  · exact readOctets_simpleEscape (e := octet 'n') rfl
  · exact readOctets_simpleEscape (e := octet 'f') rfl
  · exact readOctets_simpleEscape (e := octet 'r') rfl
  · split
    next control =>
      obtain ⟨octets, value⟩ := encode_controlEscape control
      rw [octets]
      refine (readOctets_unicodeEscape value (by omega)).trans ?_
      rw [pushChar, Char.ofNat_toNat]
      rfl
    next printable =>
      rw [Text.Utf8.encode_cons, Text.Utf8.encode_nil, List.append_nil]
      exact readOctets_append_of_isPlain fun b hb =>
        isPlain_of_mem_utf8EncodeChar (by assumption) (by assumption) (by omega) hb

theorem readOctets_escaped (cs : List Char) :
    readOctets reversed (encode (cs.flatMap escapeChar) ++ rest) =
      readOctets ((encode cs).reverse ++ reversed) rest := by
  induction cs generalizing reversed with
  | nil => rfl
  | cons c cs ih =>
    rw [List.flatMap_cons, Text.Utf8.encode_append, List.append_assoc, readOctets_escapeChar, ih,
      Text.Utf8.encode_cons, List.reverse_append, List.append_assoc]

end Escapes

/-- A quoted text reads back. -/
theorem readText_escaped (s : String) (rest : Bytes) :
    readText (encode (s.toList.flatMap escapeChar) ++ octet '"' :: rest) = .ok (s, rest) := by
  have octets : readOctets [] (encode (s.toList.flatMap escapeChar) ++ octet '"' :: rest) =
      .ok (encode s.toList, rest) := by
    rw [readOctets_escaped, readOctets.eq_def]
    simp
  unfold readText
  rw [octets]
  simp only [bind, Except.bind, Text.Utf8.decode?_encode, String.ofList_toList]

theorem encode_quoteChars (s : String) :
    encode (quoteChars s) =
      octet '"' :: (encode (s.toList.flatMap escapeChar) ++ [octet '"']) := by
  rw [quoteChars, List.cons_append, Text.Utf8.encode_cons, Text.Utf8.encode_append]
  rfl

theorem utf8EncodeChar_ascii {c : Char} (h : c.toNat < 0x80) :
    String.utf8EncodeChar c = [octet c] := by
  have all : ∀ n < 0x80, String.utf8EncodeChar (Char.ofNat n) = [octet (Char.ofNat n)] := by decide
  have here := all c.toNat h
  rwa [Char.ofNat_toNat] at here

theorem readWord_encode {w : List Char} (ascii : ∀ c ∈ w, c.toNat < 0x80) (rest : Bytes) :
    readWord w (encode w ++ rest) = .ok rest := by
  induction w with
  | nil => rfl
  | cons c w ih =>
    obtain ⟨hc, hw⟩ := List.forall_mem_cons.1 ascii
    rw [Text.Utf8.encode_cons, utf8EncodeChar_ascii hc]
    simp only [List.cons_append, List.nil_append, readWord, beq_self_eq_true, if_true]
    exact ih hw

end ReplyPipeline.Json
