import ReplyPipeline.Json.Reader
import ReplyPipeline.Proofs.Quoting
import ReplyPipeline.Proofs.RealText

/-!
# The text of a value

Every value that was read can be written and read again, at the nesting at which it was read. It
is the same value if no number of double precision is in it, and else differs in those alone.
-/
namespace ReplyPipeline.Json

open Decimal (Binary Format)
open Text.Utf8 (encode)

/-- A text is read as something, up to what follows it. -/
def ReadsAs {α : Type} (read : Bytes → Except Fault (α × Bytes)) (cs : List Char) (a : α) : Prop :=
  ∀ rest, Ends rest → read (encode cs ++ rest) = .ok (a, rest)

/-- What a value may begin with. -/
structure IsStart (b : UInt8) : Prop where
  space : isSpace b = false
  list : b ≠ octet ']'
  object : b ≠ octet '\x7d'

/-- A text begins as a value does. -/
def Leads (cs : List Char) : Prop := ∃ b bs, encode cs = b :: bs ∧ IsStart b

theorem skipSpaces_cons {b : UInt8} (h : isSpace b = false) (bs : Bytes) :
    skipSpaces (b :: bs) = b :: bs := by
  unfold skipSpaces
  rw [List.dropWhile_cons, h]
  rfl

theorem ends_comma (bs : Bytes) : Ends (octet ',' :: bs) := by
  intro b hb
  cases hb
  decide

theorem ends_list (bs : Bytes) : Ends (octet ']' :: bs) := by
  intro b hb
  cases hb
  decide

theorem ends_object (bs : Bytes) : Ends (octet '\x7d' :: bs) := by
  intro b hb
  cases hb
  decide

theorem encode_comma (cs : List Char) : encode (',' :: cs) = octet ',' :: encode cs := rfl

theorem encode_colon (cs : List Char) : encode (':' :: cs) = octet ':' :: encode cs := rfl

/-! ## Numbers -/

/-- A number that can be read. -/
def Number.Readable (P : Binary → Prop) : Number → Prop
  | .integer n => -2 ^ 63 ≤ n ∧ n < 2 ^ 64
  | .real x => P x

theorem startsNumber_of_readNumber {bs : Bytes} {r : Number × Bytes} (h : readNumber bs = .ok r) :
    ∃ b rest, bs = b :: rest ∧ startsNumber b = true := by
  cases bs with
  | nil => cases h
  | cons b rest =>
    refine ⟨b, rest, rfl, ?_⟩
    unfold startsNumber
    by_cases minus : b = octet '-'
    · rw [beq_iff_eq.2 minus]
      rfl
    · by_cases digit : isDigit b = true
      · rw [digit, Bool.or_true]
      · have zero : b ≠ octet '0' := by
          rintro rfl
          exact digit (by decide)
        simp only [readNumber, readUnsigned, beq_eq_false_iff_ne.2 minus,
          beq_eq_false_iff_ne.2 zero, digit, Bool.false_eq_true, if_false] at h
        cases h

theorem isStart_of_startsNumber {b : UInt8} (h : startsNumber b = true) : IsStart b := by
  refine ⟨?_, ?_, ?_⟩
  · by_contra space
    rw [Bool.not_eq_false] at space
    simp only [isSpace, Bool.or_eq_true, beq_iff_eq] at space
    rcases space with ((rfl | rfl) | rfl) | rfl <;> exact absurd h (by decide)
  · rintro rfl
    exact absurd h (by decide)
  · rintro rfl
    exact absurd h (by decide)

theorem Number.readsAs {n : Number} (h : n.Readable Format.double.Holds) :
    ∃ m, ReadsAs readNumber n.chars m ∧ (n.Readable (fun _ => False) → m = n) := by
  cases n with
  | integer n => exact ⟨.integer n, fun rest ends => readNumber_intText h.1 h.2 ends, fun _ => rfl⟩
  | real x =>
    obtain ⟨y, reads⟩ := readNumber_doubleChars h
    exact ⟨.real y, reads, fun none => none.elim⟩

theorem leads_of_readsAs {cs : List Char} {n : Number} (h : ReadsAs readNumber cs n) :
    ∃ b bs, encode cs = b :: bs ∧ startsNumber b = true := by
  have alone := h [] ends_nil
  rw [List.append_nil] at alone
  exact startsNumber_of_readNumber alone

/-! ## Lists and objects -/

section Sequences

variable {α : Type} {read : Bytes → Except Fault (α × Bytes)} {rest : Bytes}

theorem nextItem_comma {cs : List Char} (h : Leads cs) (bs : Bytes) :
    nextItem false (octet ',' :: (encode cs ++ bs)) = .ok (.entry (encode cs ++ bs)) := by
  obtain ⟨b, bs', shape, start⟩ := h
  have comma : isSpace (octet ',') = false := by decide
  have close : (octet ',' == octet ']') = false := by decide
  rw [shape, List.cons_append]
  simp only [nextItem, skipSpaces_cons comma, close, Bool.false_eq_true, if_false,
    beq_self_eq_true, if_true, skipSpaces_cons start.space, beq_eq_false_iff_ne.2 start.list]

theorem nextItem_first {cs : List Char} (h : Leads cs) (bs : Bytes) :
    nextItem true (encode cs ++ bs) = .ok (.entry (encode cs ++ bs)) := by
  obtain ⟨b, bs', shape, start⟩ := h
  rw [shape, List.cons_append]
  simp only [nextItem, skipSpaces_cons start.space, beq_eq_false_iff_ne.2 start.list,
    Bool.false_eq_true, if_false, if_true]

theorem nextItem_close (first : Bool) (bs : Bytes) :
    nextItem first (octet ']' :: bs) = .ok (.close (octet ']' :: bs)) := by
  have close : isSpace (octet ']') = false := by decide
  simp only [nextItem, skipSpaces_cons close, beq_self_eq_true, if_true]

theorem nextKey_close (first : Bool) (bs : Bytes) :
    nextKey first (octet '\x7d' :: bs) = .ok (.close (octet '\x7d' :: bs)) := by
  have close : isSpace (octet '\x7d') = false := by decide
  simp only [nextKey, skipSpaces_cons close, beq_self_eq_true, if_true]

theorem nextKey_first (bs : Bytes) : nextKey true (octet '"' :: bs) = .ok (.entry bs) := by
  have quote : isSpace (octet '"') = false := by decide
  have close : (octet '"' == octet '\x7d') = false := by decide
  simp only [nextKey, skipSpaces_cons quote, close, Bool.false_eq_true, if_false,
    beq_self_eq_true, if_true]

theorem nextKey_comma (bs : Bytes) :
    nextKey false (octet ',' :: octet '"' :: bs) = .ok (.entry bs) := by
  have comma : isSpace (octet ',') = false := by decide
  have quote : isSpace (octet '"') = false := by decide
  have close : (octet ',' == octet '\x7d') = false := by decide
  simp only [nextKey, skipSpaces_cons comma, close, Bool.false_eq_true, if_false,
    beq_self_eq_true, if_true, skipSpaces_cons quote]

theorem readColon_cons (bs : Bytes) : readColon (octet ':' :: bs) = .ok bs := by
  have colon : isSpace (octet ':') = false := by decide
  simp only [readColon, skipSpaces_cons colon, beq_self_eq_true, if_true]

theorem readItemsFrom_itemChars {vs : List Value} {as : List α}
    (h : List.Forall₂ (fun v a => ReadsAs read v.chars a ∧ Leads v.chars) vs as)
    (reversed : List α) {fuel : Nat} (enough : vs.length < fuel) :
    readItemsFrom read fuel false reversed (encode (itemChars vs) ++ octet ']' :: rest) =
      .ok (reversed.reverse ++ as, rest) := by
  induction h generalizing reversed fuel with
  | nil =>
    obtain ⟨fuel, rfl⟩ := Nat.exists_eq_succ_of_ne_zero (Nat.ne_zero_of_lt enough)
    simp only [itemChars, Text.Utf8.encode_nil, List.nil_append, readItemsFrom, nextItem_close,
      List.drop_succ_cons, List.drop_zero, List.append_nil]
  | @cons v a vs as first _ ih =>
    obtain ⟨fuel, rfl⟩ := Nat.exists_eq_succ_of_ne_zero (Nat.ne_zero_of_lt enough)
    obtain ⟨reads, leads⟩ := first
    have shape : encode (itemChars (v :: vs)) ++ octet ']' :: rest =
        octet ',' :: (encode v.chars ++ (encode (itemChars vs) ++ octet ']' :: rest)) := by
      simp only [itemChars, List.cons_append, List.append_assoc, Text.Utf8.encode_append,
        encode_comma]
    have ends : Ends (encode (itemChars vs) ++ octet ']' :: rest) := by
      cases vs with
      | nil => exact ends_list rest
      | cons v vs => exact ends_comma _
    rw [shape]
    simp only [readItemsFrom, nextItem_comma leads, reads _ ends]
    rw [ih (a :: reversed) (Nat.lt_of_succ_lt_succ enough), List.reverse_cons, List.append_assoc]
    rfl

theorem readMembersFrom_memberChars {ms : List (String × Value)} {as : List (String × α)}
    (h : List.Forall₂ (fun m a => a.1 = m.1 ∧ ReadsAs read m.2.chars a.2) ms as)
    (reversed : List (String × α)) {fuel : Nat} (enough : ms.length < fuel) :
    readMembersFrom read fuel false reversed (encode (memberChars ms) ++ octet '\x7d' :: rest) =
      .ok (reversed.reverse ++ as, rest) := by
  induction h generalizing reversed fuel with
  | nil =>
    obtain ⟨fuel, rfl⟩ := Nat.exists_eq_succ_of_ne_zero (Nat.ne_zero_of_lt enough)
    simp only [memberChars, Text.Utf8.encode_nil, List.nil_append, readMembersFrom, nextKey_close,
      List.drop_succ_cons, List.drop_zero, List.append_nil]
  | @cons m a ms as first _ ih =>
    obtain ⟨fuel, rfl⟩ := Nat.exists_eq_succ_of_ne_zero (Nat.ne_zero_of_lt enough)
    obtain ⟨k, v⟩ := m
    obtain ⟨k', a⟩ := a
    obtain ⟨same, reads⟩ := first
    simp only at same reads
    subst same
    have shape : encode (memberChars ((k', v) :: ms)) ++ octet '\x7d' :: rest =
        octet ',' :: octet '"' :: (encode (k'.toList.flatMap escapeChar) ++ octet '"' ::
          octet ':' :: (encode v.chars ++ (encode (memberChars ms) ++ octet '\x7d' :: rest))) := by
      simp only [memberChars, List.cons_append, List.append_assoc, List.nil_append,
        Text.Utf8.encode_append, encode_quoteChars, encode_comma, encode_colon]
    have ends : Ends (encode (memberChars ms) ++ octet '\x7d' :: rest) := by
      cases ms with
      | nil => exact ends_object rest
      | cons m ms => exact ends_comma _
    rw [shape]
    simp only [readMembersFrom, nextKey_comma, readText_escaped, readColon_cons, reads _ ends]
    rw [ih ((k', a) :: reversed) (Nat.lt_of_succ_lt_succ enough), List.reverse_cons,
      List.append_assoc]
    rfl

end Sequences

/-! ## Members in order -/

/-- The keys stand in rising order. -/
def Sorted (ms : List (String × Value)) : Prop := ms.Pairwise fun a b => a.1 < b.1

theorem mem_insertMember {key : String} {v : Value} {ms : List (String × Value)}
    {m : String × Value} (h : m ∈ insertMember key v ms) : m = (key, v) ∨ m ∈ ms := by
  induction ms with
  | nil => exact .inl (List.mem_singleton.1 h)
  | cons a ms ih =>
    obtain ⟨k, w⟩ := a
    unfold insertMember at h
    split at h
    · exact List.mem_cons.1 h
    · split at h
      · rcases List.mem_cons.1 h with h | h
        · exact .inl h
        · exact .inr (List.mem_cons_of_mem _ h)
      · rcases List.mem_cons.1 h with h | h
        · exact .inr (h ▸ List.mem_cons_self)
        · exact (ih h).imp id (List.mem_cons_of_mem _)

theorem Sorted.insertMember {ms : List (String × Value)} (h : Sorted ms) (key : String)
    (v : Value) : Sorted (insertMember key v ms) := by
  induction ms with
  | nil => exact List.pairwise_singleton ..
  | cons a ms ih =>
    obtain ⟨k, w⟩ := a
    obtain ⟨first, rest⟩ := List.pairwise_cons.1 h
    unfold Json.insertMember
    split
    next less =>
      refine List.pairwise_cons.2 ⟨fun m hm => ?_, h⟩
      rcases List.mem_cons.1 hm with rfl | hm
      · exact less
      · exact lt_trans less (first m hm)
    next notLess =>
      split
      next same =>
        rw [← same] at first
        exact List.pairwise_cons.2 ⟨first, rest⟩
      next other =>
        refine List.pairwise_cons.2 ⟨fun m hm => ?_, ih rest⟩
        rcases mem_insertMember hm with rfl | hm
        · exact lt_of_le_of_ne (not_lt.1 notLess) (Ne.symm other)
        · exact first m hm

theorem insertMember_of_lt {key : String} (v : Value) {ms : List (String × Value)}
    (h : ∀ m ∈ ms, m.1 < key) : insertMember key v ms = ms ++ [(key, v)] := by
  induction ms with
  | nil => rfl
  | cons a ms ih =>
    obtain ⟨k, w⟩ := a
    obtain ⟨first, rest⟩ := List.forall_mem_cons.1 h
    unfold insertMember
    rw [if_neg (lt_asymm first), if_neg (ne_of_gt first), ih rest]
    rfl

theorem sorted_of_forall₂ {ms ns : List (String × Value)}
    (h : List.Forall₂ (fun m a => a.1 = m.1) ms ns) (sorted : Sorted ms) : Sorted ns := by
  have keys : ns.map Prod.fst = ms.map Prod.fst := by
    induction h with
    | nil => rfl
    | cons same _ ih => rw [List.map_cons, List.map_cons, same, ih (List.pairwise_cons.1 sorted).2]
  have rising : (ms.map Prod.fst).Pairwise (· < ·) := List.pairwise_map.2 sorted
  rw [← keys] at rising
  exact List.pairwise_map.1 rising

theorem ofMembers_of_sorted {ms : List (String × Value)} (h : Sorted ms) :
    Value.ofMembers ms = .object ms := by
  have fold (front back : List (String × Value)) (h : Sorted (front ++ back)) :
      back.foldl (fun acc m => insertMember m.1 m.2 acc) front = front ++ back := by
    induction back generalizing front with
    | nil => exact (List.append_nil front).symm
    | cons m back ih =>
      have below : ∀ a ∈ front, a.1 < m.1 := fun a ha =>
        (List.pairwise_append.1 h).2.2 a ha m List.mem_cons_self
      rw [List.foldl_cons, insertMember_of_lt m.2 below,
        ih _ (by rwa [List.append_assoc]), List.append_assoc]
      rfl
  exact congrArg Value.object (fold [] ms h)

theorem sorted_ofMembers (ms : List (String × Value)) :
    ∃ ms', Value.ofMembers ms = .object ms' ∧ Sorted ms' ∧ ∀ m ∈ ms', m ∈ ms := by
  have fold (front back : List (String × Value)) (h : Sorted front) :
      Sorted (back.foldl (fun acc m => insertMember m.1 m.2 acc) front) ∧
        ∀ m ∈ back.foldl (fun acc m => insertMember m.1 m.2 acc) front, m ∈ front ∨ m ∈ back := by
    induction back generalizing front with
    | nil => exact ⟨h, fun m hm => .inl hm⟩
    | cons a back ih =>
      obtain ⟨sorted, from'⟩ := ih _ (h.insertMember a.1 a.2)
      refine ⟨sorted, fun m hm => ?_⟩
      rcases from' m hm with hm | hm
      · rcases mem_insertMember hm with rfl | hm
        · exact .inr List.mem_cons_self
        · exact .inl hm
      · exact .inr (List.mem_cons_of_mem a hm)
  obtain ⟨sorted, from'⟩ := fold [] ms List.Pairwise.nil
  refine ⟨_, rfl, sorted, fun m hm => ?_⟩
  rcases from' m hm with hm | hm
  · cases hm
  · exact hm

/-! ## Values -/

/-- A value that can be read at a nesting, its numbers of double precision being as `P` says. -/
def Value.Readable (P : Binary → Prop) : Nat → Value → Prop
  | _, .null => True
  | _, .bool _ => True
  | _, .number n => n.Readable P
  | _, .string _ => True
  | 0, .array _ => False
  | n + 1, .array vs => ∀ v ∈ vs, v.Readable P n
  | 0, .object _ => False
  | n + 1, .object ms => Sorted ms ∧ ∀ m ∈ ms, m.2.Readable P n

theorem IsStart.of_eq {b : UInt8} {c : Char} (h : b = octet c)
    (hc : isSpace (octet c) = false ∧ octet c ≠ octet ']' ∧ octet c ≠ octet '}') :
    IsStart b := by
  rw [h]
  exact ⟨hc.1, hc.2.1, hc.2.2⟩

theorem leads_quoteChars (s : String) : Leads (quoteChars s) :=
  ⟨_, _, encode_quoteChars s, .of_eq rfl (by decide)⟩

theorem Value.leads {P : Binary → Prop} {n : Nat} {v : Value} (h : v.Readable P n)
    (hP : ∀ x, P x → Format.double.Holds x) : Leads v.chars := by
  cases v with
  | null => exact ⟨_, _, rfl, .of_eq rfl (by decide)⟩
  | bool b => cases b <;> exact ⟨_, _, rfl, .of_eq rfl (by decide)⟩
  | string s => exact leads_quoteChars s
  | array vs => cases vs <;> exact ⟨_, _, rfl, .of_eq rfl (by decide)⟩
  | object ms =>
    cases ms with
    | nil => exact ⟨_, _, rfl, .of_eq rfl (by decide)⟩
    | cons m ms => exact ⟨_, _, rfl, .of_eq rfl (by decide)⟩
  | number k =>
    have readable : k.Readable Format.double.Holds := by
      cases k with
      | integer i => cases n <;> exact h
      | real x => cases n <;> exact hP x h
    obtain ⟨m, reads, -⟩ := k.readsAs readable
    obtain ⟨b, bs, shape, start⟩ := leads_of_readsAs reads
    exact ⟨b, bs, shape, isStart_of_startsNumber start⟩

section Read

variable {n : Nat}

theorem readValue_scalar {b : UInt8} (space : isSpace b = false) (list : b ≠ octet '[')
    (object : b ≠ octet '\x7b') (bs : Bytes) : readValue n (b :: bs) = readScalar b bs := by
  rw [readValue.eq_def]
  simp only [skipSpaces_cons space, beq_eq_false_iff_ne.2 list, beq_eq_false_iff_ne.2 object,
    Bool.false_eq_true, if_false]

theorem readScalar_number {b : UInt8} (h : startsNumber b = true) (bs : Bytes) :
    readScalar b bs = (readNumber (b :: bs)).map fun (n, r) => (.number n, r) := by
  have other {c : Char} (hc : startsNumber (octet c) = false) : (b == octet c) = false := by
    rw [beq_eq_false_iff_ne]
    rintro rfl
    rw [hc] at h
    cases h
  have null : (b == octet 'n') = false := other (by decide)
  have yes : (b == octet 't') = false := other (by decide)
  have no : (b == octet 'f') = false := other (by decide)
  have quote : (b == octet '"') = false := other (by decide)
  simp only [readScalar, null, yes, no, quote, Bool.false_eq_true, if_false, h, if_true]

theorem readValue_list {bs : Bytes} :
    readValue (n + 1) (octet '[' :: bs) =
      (readItems (readValue n) bs).map fun (vs, r) => (.array vs, r) := by
  have space : isSpace (octet '[') = false := by decide
  rw [readValue.eq_def]
  simp only [skipSpaces_cons space, beq_self_eq_true, if_true]

theorem readValue_object {bs : Bytes} :
    readValue (n + 1) (octet '\x7b' :: bs) =
      (readMembers (readValue n) bs).map fun (ms, r) => (.ofMembers ms, r) := by
  have space : isSpace (octet '\x7b') = false := by decide
  have list : (octet '\x7b' == octet '[') = false := by decide
  rw [readValue.eq_def]
  simp only [skipSpaces_cons space, list, Bool.false_eq_true, if_false, beq_self_eq_true, if_true]

theorem length_le_encode_itemChars (vs : List Value) :
    vs.length ≤ (encode (itemChars vs)).length := by
  induction vs with
  | nil => exact Nat.le_refl 0
  | cons v vs ih =>
    simp only [itemChars, List.cons_append, Text.Utf8.encode_append, encode_comma,
      List.length_cons, List.length_append]
    omega

theorem length_le_encode_memberChars (ms : List (String × Value)) :
    ms.length ≤ (encode (memberChars ms)).length := by
  induction ms with
  | nil => exact Nat.le_refl 0
  | cons m ms ih =>
    obtain ⟨k, v⟩ := m
    simp only [memberChars, List.cons_append, Text.Utf8.encode_append, encode_comma,
      List.length_cons, List.length_append]
    omega

theorem exists_forall₂ {α β : Type} {R : α → β → Prop} {as : List α}
    (h : ∀ a ∈ as, ∃ b, R a b) : ∃ bs, List.Forall₂ R as bs := by
  induction as with
  | nil => exact ⟨[], .nil⟩
  | cons a as ih =>
    obtain ⟨first, rest⟩ := List.forall_mem_cons.1 h
    obtain ⟨b, hb⟩ := first
    obtain ⟨bs, hbs⟩ := ih rest
    exact ⟨b :: bs, .cons hb hbs⟩

theorem readItems_chars {vs ws : List Value}
    (h : List.Forall₂ (fun v w => ReadsAs (readValue n) v.chars w ∧ Leads v.chars) vs ws)
    (rest : Bytes) :
    ∃ bs, encode (Value.array vs).chars ++ rest = octet '[' :: bs ∧
      readItems (readValue n) bs = .ok (ws, rest) := by
  cases h with
  | nil =>
    refine ⟨octet ']' :: rest, rfl, ?_⟩
    simp only [readItems, readItemsFrom, nextItem_close, List.drop_succ_cons, List.drop_zero,
      List.reverse_nil]
  | @cons v w vs ws first others =>
    obtain ⟨reads, leads⟩ := first
    refine ⟨encode v.chars ++ (encode (itemChars vs) ++ octet ']' :: rest), ?_, ?_⟩
    · simp only [Value.chars, List.cons_append, List.append_assoc, Text.Utf8.encode_append,
        Text.Utf8.encode_cons]
      rfl
    · have ends : Ends (encode (itemChars vs) ++ octet ']' :: rest) := by
        cases vs with
        | nil => exact ends_list rest
        | cons v vs => exact ends_comma _
      have few := length_le_encode_itemChars vs
      simp only [readItems, readItemsFrom, nextItem_first leads, reads _ ends]
      refine readItemsFrom_itemChars others [w] ?_
      simp only [List.length_append, List.length_cons]
      omega

theorem readMembers_chars {ms ns : List (String × Value)}
    (h : List.Forall₂ (fun m a => a.1 = m.1 ∧ ReadsAs (readValue n) m.2.chars a.2) ms ns)
    (rest : Bytes) :
    ∃ bs, encode (Value.object ms).chars ++ rest = octet '\x7b' :: bs ∧
      readMembers (readValue n) bs = .ok (ns, rest) := by
  cases h with
  | nil =>
    refine ⟨octet '\x7d' :: rest, rfl, ?_⟩
    simp only [readMembers, readMembersFrom, nextKey_close, List.drop_succ_cons, List.drop_zero,
      List.reverse_nil]
  | @cons m a ms ns first others =>
    obtain ⟨k, v⟩ := m
    obtain ⟨k', w⟩ := a
    obtain ⟨same, reads⟩ := first
    simp only at same reads
    subst same
    refine ⟨octet '"' :: (encode (k'.toList.flatMap escapeChar) ++ octet '"' :: octet ':' ::
      (encode v.chars ++ (encode (memberChars ms) ++ octet '\x7d' :: rest))), ?_, ?_⟩
    · simp only [Value.chars, List.cons_append, List.append_assoc, List.nil_append,
        Text.Utf8.encode_append, encode_quoteChars, Text.Utf8.encode_cons]
      rfl
    · have ends : Ends (encode (memberChars ms) ++ octet '\x7d' :: rest) := by
        cases ms with
        | nil => exact ends_object rest
        | cons m ms => exact ends_comma _
      have few := length_le_encode_memberChars ms
      simp only [readMembers, readMembersFrom, nextKey_first, readText_escaped, readColon_cons,
        reads _ ends]
      refine readMembersFrom_memberChars others [(k', w)] ?_
      simp only [List.length_append, List.length_cons]
      omega

theorem readWord_ull (rest : Bytes) :
    readWord ['u', 'l', 'l'] (encode ['u', 'l', 'l'] ++ rest) = .ok rest :=
  readWord_encode (by simp) rest

theorem readsAs_null (n : Nat) : ReadsAs (readValue n) Value.null.chars .null := by
  intro rest _
  have shape : encode Value.null.chars ++ rest =
      octet 'n' :: (encode ['u', 'l', 'l'] ++ rest) := rfl
  rw [shape, readValue_scalar (by decide) (by decide) (by decide)]
  simp only [readScalar, beq_self_eq_true, if_true, readWord_ull]
  rfl

theorem readsAs_bool (n : Nat) (b : Bool) :
    ReadsAs (readValue n) (Value.bool b).chars (.bool b) := by
  intro rest _
  cases b with
  | true =>
    have shape : encode (Value.bool true).chars ++ rest =
        octet 't' :: (encode ['r', 'u', 'e'] ++ rest) := rfl
    have null : (octet 't' == octet 'n') = false := by decide
    have word := readWord_encode (w := ['r', 'u', 'e']) (by simp) rest
    rw [shape, readValue_scalar (by decide) (by decide) (by decide)]
    simp only [readScalar, null, Bool.false_eq_true, if_false, beq_self_eq_true, if_true, word]
    rfl
  | false =>
    have shape : encode (Value.bool false).chars ++ rest =
        octet 'f' :: (encode ['a', 'l', 's', 'e'] ++ rest) := rfl
    have null : (octet 'f' == octet 'n') = false := by decide
    have yes : (octet 'f' == octet 't') = false := by decide
    have word := readWord_encode (w := ['a', 'l', 's', 'e']) (by simp) rest
    rw [shape, readValue_scalar (by decide) (by decide) (by decide)]
    simp only [readScalar, null, yes, Bool.false_eq_true, if_false, beq_self_eq_true, if_true,
      word]
    rfl

theorem readsAs_string (n : Nat) (s : String) :
    ReadsAs (readValue n) (Value.string s).chars (.string s) := by
  intro rest _
  rw [Value.chars, encode_quoteChars, List.cons_append,
    readValue_scalar (by decide) (by decide) (by decide), List.append_assoc]
  change (readText (encode (s.toList.flatMap escapeChar) ++ octet '"' :: rest)).map _ = _
  rw [readText_escaped]
  rfl

theorem readsAs_number {k : Number} (h : k.Readable Format.double.Holds) (n : Nat) :
    ∃ w, ReadsAs (readValue n) (Value.number k).chars w ∧
      (k.Readable (fun _ => False) → w = .number k) := by
  obtain ⟨m, reads, same⟩ := k.readsAs h
  refine ⟨.number m, fun rest ends => ?_, fun hk => congrArg Value.number (same hk)⟩
  obtain ⟨b, bs, shape, start⟩ := leads_of_readsAs reads
  have here := reads rest ends
  have list : b ≠ octet '[' := by
    rintro rfl
    exact absurd start (by decide)
  have object : b ≠ octet '\x7b' := by
    rintro rfl
    exact absurd start (by decide)
  rw [shape, List.cons_append] at here
  rw [Value.chars, shape, List.cons_append,
    readValue_scalar (isStart_of_startsNumber start).space list object, readScalar_number start,
    here]
  rfl

theorem forall₂_eq {α : Type} {P : α → Prop} {as bs : List α}
    (h : List.Forall₂ (fun a b => P a → b = a) as bs) (hP : ∀ a ∈ as, P a) : bs = as := by
  induction h with
  | nil => rfl
  | cons first _ ih =>
    obtain ⟨here, there⟩ := List.forall_mem_cons.1 hP
    rw [first here, ih there]

/-- A value that can be read is read again when it is written, and without numbers of double
precision it is read as it was. -/
theorem Value.readsAs {v : Value} (h : v.Readable Format.double.Holds n) :
    ∃ w, ReadsAs (readValue n) v.chars w ∧ (v.Readable (fun _ => False) n → w = v) := by
  induction n generalizing v with
  | zero =>
    cases v with
    | null => exact ⟨.null, readsAs_null 0, fun _ => rfl⟩
    | bool b => exact ⟨.bool b, readsAs_bool 0 b, fun _ => rfl⟩
    | number k => exact readsAs_number h 0
    | string s => exact ⟨.string s, readsAs_string 0 s, fun _ => rfl⟩
    | array vs => exact h.elim
    | object ms => exact h.elim
  | succ n ih =>
    cases v with
    | null => exact ⟨.null, readsAs_null (n + 1), fun _ => rfl⟩
    | bool b => exact ⟨.bool b, readsAs_bool (n + 1) b, fun _ => rfl⟩
    | number k => exact readsAs_number h (n + 1)
    | string s => exact ⟨.string s, readsAs_string (n + 1) s, fun _ => rfl⟩
    | array vs =>
      have each : ∀ v ∈ vs, ∃ w, (ReadsAs (readValue n) v.chars w ∧ Leads v.chars) ∧
          (v.Readable (fun _ => False) n → w = v) := by
        intro v hv
        obtain ⟨w, reads, same⟩ := ih (h v hv)
        exact ⟨w, ⟨reads, Value.leads (h v hv) fun _ hx => hx⟩, same⟩
      obtain ⟨ws, hws⟩ := exists_forall₂ each
      refine ⟨.array ws, fun rest _ => ?_, fun hP => congrArg Value.array ?_⟩
      · obtain ⟨bs, shape, reads⟩ := readItems_chars (hws.imp fun _ _ r => r.1) rest
        rw [shape, readValue_list, reads]
        rfl
      · exact forall₂_eq (hws.imp fun _ _ r => r.2) hP
    | object ms =>
      obtain ⟨sorted, values⟩ := h
      have each : ∀ m ∈ ms, ∃ a : String × Value,
          (a.1 = m.1 ∧ ReadsAs (readValue n) m.2.chars a.2) ∧
          (m.2.Readable (fun _ => False) n → a = m) := by
        intro m hm
        obtain ⟨w, reads, same⟩ := ih (values m hm)
        exact ⟨(m.1, w), ⟨rfl, reads⟩, fun hP => Prod.ext rfl (same hP)⟩
      obtain ⟨ns, hns⟩ := exists_forall₂ each
      have inOrder : Sorted ns := sorted_of_forall₂ (hns.imp fun _ _ r => r.1.1) sorted
      refine ⟨.object ns, fun rest _ => ?_, fun hP => congrArg Value.object ?_⟩
      · obtain ⟨bs, shape, reads⟩ := readMembers_chars (hns.imp fun _ _ r => r.1) rest
        rw [shape, readValue_object, reads]
        refine congrArg (fun v => Except.ok (v, rest)) (ofMembers_of_sorted inOrder)
      · exact forall₂_eq (hns.imp fun _ _ r => r.2) hP.2

end Read

end ReplyPipeline.Json
