import ReplyPipeline.Ident
import ReplyPipeline.Proofs.Readable

/-!
# The text of a record

A record is written with its fields in the order in which its reader knows them, and is read back
field by field. A draft that is filled by one field after the other carries the proof; the other
direction, what holds of a draft however it was filled, is `yields_record`.
-/
namespace ReplyPipeline.Json

open Text.Utf8 (encode)

/-! ## Parts of records -/

section Parts

variable {α β : Type} {n : Nat}

theorem readsAs_textAs (wanted s : String) (n : Nat) :
    ReadsAs (textAs wanted n) (quoteChars s) s := by
  intro rest _
  have quote : isSpace (octet '"') = false := by decide
  rw [encode_quoteChars, List.cons_append, List.append_assoc]
  simp only [textAs, skipSpaces_cons quote, beq_self_eq_true, if_true]
  exact readText_escaped s rest

theorem readsAs_text (s : String) (n : Nat) : ReadsAs (text n) (quoteChars s) s :=
  readsAs_textAs "a string" s n

theorem ReadsAs.refine {read : Reader α} {cs : List Char} {a : α} {b : β}
    {f : α → Except Mismatch β} (h : ReadsAs (read n) cs a) (hf : f a = .ok b) :
    ReadsAs (Json.refine read f n) cs b := by
  intro rest ends
  simp only [Json.refine, h rest ends, hf]

theorem ReadsAs.map {read : Bytes → Except Fault (α × Bytes)} {cs : List Char} {a : α}
    (h : ReadsAs read cs a) (f : α → β) :
    ReadsAs (fun bs => (read bs).map fun (a, r) => (f a, r)) cs (f a) := by
  intro rest ends
  simp only [h rest ends]
  rfl

theorem readsAs_integer {w : Decimal.Width} {i : Int} (wanted : String) (h : w.holds i = true)
    (low : -2 ^ 63 ≤ i) (high : i < 2 ^ 64) (n : Nat) :
    ReadsAs (integer w wanted n) (Decimal.intText i) i := by
  have reads : ReadsAs readNumber (Decimal.intText i) (.integer i) := fun rest ends =>
    readNumber_intText low high ends
  obtain ⟨b, bs, shape, start⟩ := leads_of_readsAs reads
  intro rest ends
  have here := reads rest ends
  rw [shape, List.cons_append] at here ⊢
  simp only [integer, skipSpaces_cons (isStart_of_startsNumber start).space, start, if_true, here,
    h]

theorem leads_intText {i : Int} (low : -2 ^ 63 ≤ i) (high : i < 2 ^ 64) :
    ∃ b bs, encode (Decimal.intText i) = b :: bs ∧ startsNumber b = true :=
  leads_of_readsAs fun _ ends => readNumber_intText low high ends

theorem readsAs_u32 {k : Nat} (h : k < 2 ^ 32) (n : Nat) :
    ReadsAs (u32 n) (Decimal.natText k) k := by
  have inside : Decimal.Width.u32.holds k = true :=
    Bool.and_eq_true_iff.2 ⟨decide_eq_true (by simp only [Decimal.Width.u32]; omega),
      decide_eq_true (by simp only [Decimal.Width.u32]; omega)⟩
  exact (readsAs_integer (i := (k : Int)) "u32" inside (by omega) (by omega) n).map Int.toNat

theorem int64_bounds (i : Int64) : -2 ^ 63 ≤ i.toInt ∧ i.toInt < 2 ^ 63 :=
  ⟨i.le_toInt, i.toInt_lt⟩

theorem readsAs_i64 (i : Int64) (n : Nat) : ReadsAs (i64Reader n) (i64Chars i) i := by
  obtain ⟨low, high⟩ := int64_bounds i
  have inside : Decimal.Width.i64.holds i.toInt = true :=
    Bool.and_eq_true_iff.2 ⟨decide_eq_true (by simp only [Decimal.Width.i64]; omega),
      decide_eq_true (by simp only [Decimal.Width.i64]; omega)⟩
  have reads := (readsAs_integer "i64" inside low (by omega) n).map Int64.ofInt
  rwa [Int64.ofInt_toInt] at reads

theorem readsAs_choice {known : List (String × α)} {other : Option α} {name : String} {a : α}
    (h : (known.lookup name).or other = some a) (n : Nat) :
    ReadsAs (choice known other n) (quoteChars name) a := by
  have quote : isSpace (octet '"') = false := by decide
  have named : ReadsAs (nameAmong known other n) (quoteChars name) a := by
    refine (readsAs_textAs "variant identifier" name n).refine ?_
    cases hl : known.lookup name with
    | some b =>
      rw [hl] at h
      cases h
      cases other <;> rfl
    | none =>
      rw [hl, Option.none_or] at h
      rw [h]
  intro rest ends
  have here := named rest ends
  rw [encode_quoteChars, List.cons_append] at here ⊢
  simp only [choice, skipSpaces_cons quote, beq_self_eq_true, if_true, here]

/-- The text does not begin as a null does. -/
def Present (cs : List Char) : Prop :=
  ∃ b bs, encode cs = b :: bs ∧ isSpace b = false ∧ b ≠ octet 'n'

theorem present_quoteChars (s : String) : Present (quoteChars s) :=
  ⟨_, _, encode_quoteChars s, by decide, by decide⟩

theorem present_i64Chars (i : Int64) : Present (i64Chars i) := by
  obtain ⟨low, high⟩ := int64_bounds i
  obtain ⟨b, bs, shape, start⟩ := leads_intText low (Int.lt_trans high (by decide))
  refine ⟨b, bs, shape, (isStart_of_startsNumber start).space, ?_⟩
  rintro rfl
  exact absurd start (by decide)

theorem present_recordChars (fields : List (String × List Char)) : Present (recordChars fields) :=
  ⟨octet '\x7b', _, rfl, by decide, by decide⟩

theorem readsAs_optional_none (read : Reader α) (n : Nat) :
    ReadsAs (optional read n) Value.null.chars none := by
  intro rest _
  have letter : isSpace (octet 'n') = false := by decide
  have shape : encode Value.null.chars ++ rest =
      octet 'n' :: (encode ['u', 'l', 'l'] ++ rest) := rfl
  rw [shape]
  simp only [optional, skipSpaces_cons letter, beq_self_eq_true, if_true, readWord_ull]
  rfl

theorem ReadsAs.optional {read : Reader α} {cs : List Char} {a : α} (h : ReadsAs (read n) cs a)
    (present : Present cs) : ReadsAs (optional read n) cs (some a) := by
  intro rest ends
  have here := h rest ends
  obtain ⟨b, bs, shape, space, null⟩ := present
  rw [shape, List.cons_append] at here ⊢
  simp only [Json.optional, skipSpaces_cons space, beq_eq_false_iff_ne.2 null, Bool.false_eq_true,
    if_false, here]
  rfl

theorem readsAs_optionChars {read : Reader α} {write : α → List Char} {o : Option α}
    (h : ∀ a, o = some a → ReadsAs (read n) (write a) a ∧ Present (write a)) :
    ReadsAs (optional read n) (optionChars write o) o := by
  cases o with
  | none => exact readsAs_optional_none read n
  | some a => exact (h a rfl).1.optional (h a rfl).2

end Parts

/-! ## Filling a draft -/

/-- A member of a record that is written: its name, the text of its value, and what reading it does
to a draft. -/
structure Entry (δ : Type) where
  name : String
  chars : List Char
  set : δ → δ

section Records

variable {δ α : Type} {fields : List (Field δ)} {n : Nat} {d d' : δ}

/-- Reading some members takes a draft to another. -/
inductive Fills (fields : List (Field δ)) (n : Nat) : List (Entry δ) → δ → δ → Prop
  | nil (d : δ) : Fills fields n [] d d
  | cons {e : Entry δ} {es : List (Entry δ)} {f : Field δ} {d d' : δ} :
      fields.find? (·.name == e.name) = some f → f.present d = false →
      ReadsAs (f.read n) e.chars e.set → Fills fields n es (e.set d) d' →
      Fills fields n (e :: es) d d'

theorem find?_field (distinct : (fields.map (·.name)).Nodup) {i : Nat} {f : Field δ}
    (place : fields[i]? = some f) : fields.find? (·.name == f.name) = some f := by
  induction fields generalizing i with
  | nil => cases place
  | cons g gs ih =>
    rw [List.map_cons, List.nodup_cons] at distinct
    cases i with
    | zero =>
      cases place
      exact List.find?_cons_of_pos (beq_self_eq_true _)
    | succ i =>
      have later : f ∈ gs := List.mem_of_getElem? place
      have other : (g.name == f.name) = false := by
        rw [beq_eq_false_iff_ne]
        intro same
        exact distinct.1 (same ▸ List.mem_map_of_mem later)
      rw [List.find?_cons, other]
      exact ih distinct.2 place

/-- A member that is kept in a component of the draft, and is not there yet, is read into it. -/
theorem Fills.field (distinct : (fields.map (·.name)).Nodup) (i : Nat) {name : String}
    {read : Reader α} {get : δ → Option α} {set : α → δ → δ} {omissible : Bool} {cs : List Char}
    {a : α} {es : List (Entry δ)} (place : fields[i]? = some (.of name read get set omissible))
    (absent : get d = none) (h : ReadsAs (read n) cs a)
    (later : Fills fields n es (Entry.set ⟨name, cs, set a⟩ d) d') :
    Fills fields n (⟨name, cs, set a⟩ :: es) d d' :=
  .cons (find?_field distinct place)
    (Option.isSome_eq_false_iff.2 (Option.isNone_iff_eq_none.2 absent)) (h.map set) later

def entryChars (es : List (Entry δ)) : List Char :=
  es.flatMap fun e => ',' :: quoteChars e.name ++ ':' :: e.chars

theorem commaSeparated_cons (p : List Char) (ps : List (List Char)) :
    commaSeparated (p :: ps) = p ++ ps.flatMap (',' :: ·) := by
  induction ps generalizing p with
  | nil => exact (List.append_nil p).symm
  | cons q ps ih => rw [commaSeparated, ih, List.flatMap_cons, List.cons_append]

theorem entry_shape (e : Entry δ) (rest : Bytes) :
    encode (quoteChars e.name ++ ':' :: e.chars) ++ rest =
      octet '"' :: (encode (e.name.toList.flatMap escapeChar) ++ octet '"' :: octet ':' ::
        (encode e.chars ++ rest)) := by
  simp only [Text.Utf8.encode_append, encode_quoteChars, encode_colon, List.cons_append,
    List.append_assoc, List.nil_append]

theorem recordMembersFrom_entry {e : Entry δ} {f : Field δ} {closed first : Bool} {bs after : Bytes}
    (key : nextKey first bs = .ok (.entry (encode (e.name.toList.flatMap escapeChar) ++
      octet '"' :: octet ':' :: (encode e.chars ++ after))))
    (found : fields.find? (·.name == e.name) = some f) (absent : f.present d = false)
    (reads : ReadsAs (f.read n) e.chars e.set) (ends : Ends after) (fuel : Nat) :
    recordMembersFrom closed fields n (fuel + 1) first d bs =
      recordMembersFrom closed fields n fuel false (e.set d) after := by
  simp only [recordMembersFrom, key, readText_escaped, found, absent, Bool.false_eq_true, if_false,
    readColon_cons, bind, Except.bind, reads after ends]

theorem ends_entryChars (es : List (Entry δ)) (rest : Bytes) :
    Ends (encode (entryChars es) ++ octet '\x7d' :: rest) := by
  cases es with
  | nil => exact ends_object rest
  | cons e es => exact ends_comma _

/-- Members are read one after the other, whatever becomes of those behind them. -/
theorem recordMembersFrom_entries {es : List (Entry δ)} (h : Fills fields n es d d')
    (more : List (Entry δ)) (closed : Bool) (rest : Bytes) (fuel : Nat) :
    recordMembersFrom closed fields n (fuel + es.length) false d
        (encode (entryChars (es ++ more)) ++ octet '\x7d' :: rest) =
      recordMembersFrom closed fields n fuel false d'
        (encode (entryChars more) ++ octet '\x7d' :: rest) := by
  induction h with
  | nil d => rfl
  | @cons e es f d d' found absent reads _ ih =>
    have shape : encode (entryChars (e :: es ++ more)) ++ octet '\x7d' :: rest =
        octet ',' :: octet '"' :: (encode (e.name.toList.flatMap escapeChar) ++ octet '"' ::
          octet ':' :: (encode e.chars ++
            (encode (entryChars (es ++ more)) ++ octet '\x7d' :: rest))) := by
      rw [← entry_shape, List.cons_append, entryChars, List.flatMap_cons,
        Text.Utf8.encode_append, List.append_assoc]
      rfl
    rw [List.length_cons, ← Nat.add_assoc, shape, recordMembersFrom_entry (nextKey_comma _) found
      absent reads (ends_entryChars (es ++ more) rest)]
    exact ih

theorem length_le_entryChars (es : List (Entry δ)) :
    es.length ≤ (encode (entryChars es)).length := by
  induction es with
  | nil => exact Nat.zero_le _
  | cons e es ih =>
    rw [entryChars, List.flatMap_cons, List.cons_append, List.cons_append, encode_comma,
      Text.Utf8.encode_append, List.length_cons, List.length_cons, List.length_append]
    exact Nat.succ_le_succ (Nat.le_trans ih (Nat.le_add_left _ _))

theorem recordChars_entries (e : Entry δ) (es : List (Entry δ)) :
    recordChars ((e :: es).map fun e => (e.name, e.chars)) =
      '\x7b' :: (quoteChars e.name ++ ':' :: e.chars) ++ entryChars es ++ ['\x7d'] := by
  rw [recordChars, List.map_cons, List.map_cons, commaSeparated_cons, List.map_map,
    List.flatMap_map]
  rfl

theorem record_entry (name : RecordName) {empty : δ} (finish : δ → Except Mismatch α) {e : Entry δ}
    (es : List (Entry δ)) {f : Field δ} (found : fields.find? (·.name == e.name) = some f)
    (absent : f.present empty = false) (reads : ReadsAs (f.read n) e.chars e.set) (rest : Bytes) :
    ∃ fuel, es.length < fuel ∧
      record name fields empty finish (n + 1)
          (encode (recordChars ((e :: es).map fun e => (e.name, e.chars))) ++ rest) =
        match recordMembersFrom name.closed fields n fuel false (e.set empty)
            (encode (entryChars es) ++ octet '\x7d' :: rest) with
        | .error f => .error f
        | .ok (draft, rest) =>
          match finish draft with
          | .ok a => .ok (a, rest.drop 1)
          | .error m => mismatch (rest.drop 1) m := by
  have brace : isSpace (octet '\x7b') = false := by decide
  have bracket : (octet '\x7b' == octet '[') = false := by decide
  have shape : encode (recordChars ((e :: es).map fun e => (e.name, e.chars))) ++ rest =
      octet '\x7b' :: octet '"' :: (encode (e.name.toList.flatMap escapeChar) ++ octet '"' ::
        octet ':' :: (encode e.chars ++ (encode (entryChars es) ++ octet '\x7d' :: rest))) := by
    have brace : String.utf8EncodeChar '\x7b' = [octet '\x7b'] := rfl
    have close : encode ['\x7d'] = [octet '\x7d'] := rfl
    simp only [← entry_shape, recordChars_entries, Text.Utf8.encode_cons,
      Text.Utf8.encode_append, brace, close, List.cons_append, List.nil_append,
      List.append_assoc]
  have short := length_le_entryChars es
  rw [shape]
  simp only [record, skipSpaces_cons brace, bracket, Bool.false_eq_true, if_false,
    beq_self_eq_true, if_true]
  rw [recordMembersFrom_entry (nextKey_first _) found absent reads (ends_entryChars es rest)]
  refine ⟨_, ?_, rfl⟩
  simp only [List.length_append, List.length_cons]
  omega

/-- When a record is read from its members those in front fill the draft, whatever becomes of the
others. -/
theorem record_entries (name : RecordName) {empty : δ} (finish : δ → Except Mismatch α)
    {es : List (Entry δ)} (h : Fills fields n es empty d) (some : es ≠ []) (more : List (Entry δ))
    (rest : Bytes) :
    ∃ fuel, more.length < fuel ∧
      record name fields empty finish (n + 1)
          (encode (recordChars ((es ++ more).map fun e => (e.name, e.chars))) ++ rest) =
        match recordMembersFrom name.closed fields n fuel false d
            (encode (entryChars more) ++ octet '\x7d' :: rest) with
        | .error f => .error f
        | .ok (draft, rest) =>
          match finish draft with
          | .ok a => .ok (a, rest.drop 1)
          | .error m => mismatch (rest.drop 1) m := by
  cases h with
  | nil => exact absurd rfl some
  | @cons e es f _ _ found absent reads later =>
    obtain ⟨fuel, enough, read⟩ := record_entry name finish (es ++ more) found absent reads rest
    rw [List.length_append] at enough
    obtain ⟨spare, rfl⟩ := Nat.exists_eq_add_of_le (Nat.le_of_lt enough)
    refine ⟨more.length + spare, by omega, ?_⟩
    rw [List.cons_append, read, ← recordMembersFrom_entries later more name.closed rest,
      Nat.add_comm _ es.length, Nat.add_assoc]

theorem readsAs_record {name : RecordName} {empty : δ} {finish : δ → Except Mismatch α} {a : α}
    {es : List (Entry δ)} {cs : List Char} (h : Fills fields n es empty d) (some : es ≠ [])
    (done : finish d = .ok a) (text : recordChars (es.map fun e => (e.name, e.chars)) = cs) :
    ReadsAs (record name fields empty finish (n + 1)) cs a := by
  subst text
  intro rest _
  obtain ⟨fuel, enough, read⟩ := record_entries name finish h some [] rest
  obtain ⟨fuel, rfl⟩ := Nat.exists_eq_succ_of_ne_zero (Nat.ne_zero_of_lt enough)
  rw [List.append_nil] at read
  rw [read]
  simp only [entryChars, List.flatMap_nil, Text.Utf8.encode_nil, List.nil_append,
    recordMembersFrom, nextKey_close, done]
  rfl

end Records

/-! ## Drafts that were filled -/

section Drafts

variable {α β δ : Type} {read : Reader α} {P : α → Prop} {n : Nat}

theorem wrongType_ne_ok (wanted : String) (b : UInt8) (bs : Bytes) (p : α × Bytes) :
    wrongType wanted b bs ≠ .ok p := by
  intro h
  unfold wrongType at h
  split at h
  · cases h
  · split at h
    · cases h
    · split at h
      · cases h
      · cases h

theorem eq_some_of_required {name : String} {o : Option α} {a : α}
    (h : required name o = .ok a) : o = some a := by
  cases o with
  | none => cases h
  | some b =>
    cases h
    rfl

theorem yields_refine {f : α → Except Mismatch β} {Q : β → Prop} (h : Yields (read n) P)
    (step : ∀ a b, P a → f a = .ok b → Q b) : Yields (refine read f n) Q := by
  intro bs b rest ok
  unfold refine at ok
  split at ok
  · cases ok
  next a after one =>
    split at ok
    next two =>
      cases ok
      exact step a b (h _ _ _ one) two
    next => cases ok

theorem yields_optional (h : Yields (read n) P) :
    Yields (optional read n) fun o => ∀ a, o = some a → P a := by
  intro bs o rest ok a some
  subst some
  unfold optional at ok
  split at ok
  · split at ok
    · cases eq_ok_of_map_bytes ok
    · obtain ⟨a', one, same⟩ := eq_ok_of_map ok
      cases same
      exact h _ _ _ one
  · obtain ⟨a', one, same⟩ := eq_ok_of_map ok
    cases same
    exact h _ _ _ one

variable {fields : List (Field δ)} {Q : δ → Prop}

/-- Reading a field leaves a draft as `Q` says. -/
def Field.Keeps (f : Field δ) (n : Nat) (Q : δ → Prop) : Prop :=
  Yields (f.read n) fun set => ∀ d, Q d → Q (set d)

theorem keeps_of {name : String} {get : δ → Option α} {set : α → δ → δ} {omissible : Bool}
    (h : Yields (read n) P) (step : ∀ a d, P a → Q d → Q (set a d)) :
    (Field.of name read get set omissible).Keeps n Q := by
  intro bs set' rest ok d hd
  obtain ⟨a, one, rfl⟩ := eq_ok_of_map ok
  exact step a d (h _ _ _ one) hd

/-- A member that is there already is refused, so that the reading of a field matters only where the
draft does not have it. -/
theorem kept_of_recordMembersFrom
    (keeps : ∀ f ∈ fields, ∀ d, f.present d = false → Q d → Yields (f.read n) fun set => Q (set d))
    {closed first : Bool} {fuel : Nat} {d d' : δ} {bs rest : Bytes} (hd : Q d)
    (ok : recordMembersFrom closed fields n fuel first d bs = .ok (d', rest)) : Q d' := by
  induction fuel generalizing first d bs with
  | zero => cases ok
  | succ fuel ih =>
    unfold recordMembersFrom at ok
    split at ok
    · cases ok
    · cases ok
      exact hd
    · split at ok
      · cases ok
      · split at ok
        · split at ok
          · cases ok
          · split at ok
            · cases ok
            · exact ih hd ok
        next f found =>
          split at ok
          · cases ok
          next absent =>
            split at ok
            · cases ok
            next set after one =>
              obtain ⟨bs', -, two⟩ := eq_ok_of_bind one
              refine ih ?_ ok
              exact keeps f (List.mem_of_find?_eq_some found) d (Bool.eq_false_iff.2 absent) hd
                _ _ _ two

theorem kept_of_recordItemsFrom (keeps : ∀ f ∈ fields, f.Keeps n Q) {wanted : String}
    {index : Nat} {d d' : δ} {bs rest : Bytes} (hd : Q d)
    (ok : recordItemsFrom n wanted fields index d bs = .ok (d', rest)) : Q d' := by
  induction fields generalizing index d bs with
  | nil =>
    cases ok
    exact hd
  | cons f fields ih =>
    have later := fun g hg => keeps g (List.mem_cons_of_mem f hg)
    unfold recordItemsFrom at ok
    split at ok
    · cases ok
    · split at ok
      · exact ih later hd ok
      · cases ok
    · split at ok
      · cases ok
      next set after one =>
        exact ih later (keeps f List.mem_cons_self _ _ _ one d hd) ok

/-- What every field leaves as it is and the empty draft has, the finished draft has. -/
theorem yields_record {name : RecordName} {empty : δ} {finish : δ → Except Mismatch α}
    (keeps : ∀ f ∈ fields, f.Keeps n Q) (start : Q empty)
    (step : ∀ d a, Q d → finish d = .ok a → P a) :
    Yields (record name fields empty finish (n + 1)) P := by
  intro bs a rest ok
  unfold record at ok
  simp only at ok
  split at ok
  · cases ok
  · split at ok
    · split at ok
      · cases ok
      next d after one =>
        have hd := kept_of_recordItemsFrom keeps start one
        cases hf : finish d with
        | error m =>
          simp only [hf] at ok
          cases ok
        | ok a' =>
          simp only [hf] at ok
          obtain rfl := eq_ok_of_map_bytes ok
          exact step d _ hd hf
    · split at ok
      · split at ok
        · cases ok
        next d after one =>
          have hd := kept_of_recordMembersFrom
            (fun f hf d _ hd bs set rest ok => keeps f hf bs set rest ok d hd) start one
          cases hf : finish d with
          | error m =>
            simp only [hf] at ok
            cases ok
          | ok a' =>
            simp only [hf] at ok
            cases ok
            exact step d a hd hf
      · exact absurd ok (wrongType_ne_ok _ _ _ _)

end Drafts
end ReplyPipeline.Json
