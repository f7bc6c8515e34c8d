/-!
# Texts

Which characters are blank and how texts are trimmed, how a text is cut into pieces, and what
hexadecimal digits stand for.
-/
namespace ReplyPipeline.Text

/-!
## Blank characters

A character is blank when it has the Unicode property White_Space: 25 code points in ten ranges.
Zero-width characters, the byte order mark and the Mongolian vowel separator are not blank.
Identifiers, settings, message contents and generated replies are trimmed by this rule.
-/

/-- Has the Unicode property White_Space. -/
def isBlank (c : Char) : Bool :=
  let n := c.toNat
  (9 ≤ n && n ≤ 13) || n == 0x20 || n == 0x85 || n == 0xA0 || n == 0x1680 ||
    (0x2000 ≤ n && n ≤ 0x200A) || n == 0x2028 || n == 0x2029 || n == 0x202F || n == 0x205F ||
    n == 0x3000

/-- A character sequence without its blank ends. -/
def trimChars (cs : List Char) : List Char :=
  ((cs.dropWhile isBlank).reverse.dropWhile isBlank).reverse

def trim (s : String) : String := String.ofList (trimChars s.toList)

/-- Nothing but blank characters, or nothing at all. -/
def allBlank (s : String) : Bool := s.toList.all isBlank

theorem dropWhile_dropWhile {α : Type} (p : α → Bool) (l : List α) :
    (l.dropWhile p).dropWhile p = l.dropWhile p := by
  induction l with
  | nil => rfl
  | cons a l ih => by_cases h : p a <;> simp [h, ih]

theorem dropWhile_of_dropWhile_append {α : Type} {p : α → Bool} {l r : List α}
    (h : (l ++ r).dropWhile p = l ++ r) : l.dropWhile p = l := by
  cases l with
  | nil => rfl
  | cons a l =>
    by_cases ha : p a
    · have hl := congrArg List.length h
      have := (List.dropWhile_suffix (l := l ++ r) p).length_le
      simp only [List.cons_append, List.dropWhile_cons, ha, ↓reduceIte, List.length_cons] at hl
      omega
    · simp [ha]

/-- What has been trimmed has no blank ends. -/
theorem trimChars_trimChars (cs : List Char) : trimChars (trimChars cs) = trimChars cs := by
  have hs : cs.dropWhile isBlank =
      trimChars cs ++ ((cs.dropWhile isBlank).reverse.takeWhile isBlank).reverse := by
    rw [trimChars, ← List.reverse_append, List.takeWhile_append_dropWhile, List.reverse_reverse]
  have hf : (trimChars cs).dropWhile isBlank = trimChars cs :=
    dropWhile_of_dropWhile_append (by rw [← hs]; exact dropWhile_dropWhile _ _)
  conv => lhs; rw [trimChars, hf]
  simp [trimChars, dropWhile_dropWhile]

@[simp] theorem trim_trim (s : String) : trim (trim s) = trim s := by
  simp [trim, trimChars_trimChars]

/-!
## Splitting texts

`splitOn` cuts a text at every occurrence of a character; joining the pieces with that character
gives the text back.
-/

/-- The pieces between the occurrences of a character. -/
def splitOn (mark : Char) : List Char → List (List Char)
  | [] => [[]]
  | c :: rest =>
    if c = mark then [] :: splitOn mark rest
    else
      match splitOn mark rest with
      | [] => [[c]]
      | piece :: pieces => (c :: piece) :: pieces

/-!
## Hexadecimal digits

A digit stands for a number below sixteen. Upper and lower case are the same.
-/
namespace Hex

def digitValue? (c : Char) : Option Nat :=
  if '0' ≤ c && c ≤ '9' then some (c.toNat - '0'.toNat)
  else if 'a' ≤ c && c ≤ 'f' then some (c.toNat - 'a'.toNat + 10)
  else if 'A' ≤ c && c ≤ 'F' then some (c.toNat - 'A'.toNat + 10)
  else none

end Hex
end ReplyPipeline.Text
