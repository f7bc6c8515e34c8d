import ReplyPipeline.Json.Reader

/-!
# Reading records and choices from JSON text

`record` reads a record from an object, whose unknown members are passed over, or from a list of
its fields in order. A field that occurs twice, a field that is missing and a list of the wrong
length are mismatches. `choice` reads a name out of a few, as a text or as an object of one member
that is null.
-/
namespace ReplyPipeline.Json

def mismatch {α : Type} (rest : Bytes) (m : Mismatch) : Except Fault α :=
  faultHere rest (.mismatch m)

/-- The complaint about a value that is not of the wanted type. A scalar is read first, and what
is wrong inside it comes first. -/
def wrongType {α : Type} (wanted : String) (b : UInt8) (rest : Bytes) : Except Fault α :=
  if b == octet '[' then mismatch (b :: rest) (.invalidType .sequence wanted)
  else if b == octet '\x7b' then mismatch (b :: rest) (.invalidType .map wanted)
  else
    match readScalar b rest with
    | .error f => .error f
    | .ok (v, rest) => mismatch rest (.invalidType v.found wanted)

/-- A text. `wanted` is what a complaint says was expected. -/
def textAs (wanted : String) : Reader String := fun _ bs =>
  match skipSpaces bs with
  | [] => faultNext [] .endInValue
  | b :: rest => if b == octet '"' then readText rest else wrongType wanted b rest

def text : Reader String := textAs "a string"

def integer (w : Decimal.Width) (wanted : String) : Reader Int := fun _ bs =>
  match skipSpaces bs with
  | [] => faultNext [] .endInValue
  | b :: rest =>
    if startsNumber b then
      match readNumber (b :: rest) with
      | .error f => .error f
      | .ok (.integer n, rest) =>
        if w.holds n then .ok (n, rest)
        else mismatch rest (.invalidValue (.number (.integer n)) wanted)
      | .ok (.real x, rest) => mismatch rest (.invalidType (.number (.real x)) wanted)
    else wrongType wanted b rest

def i64 : Reader Int := integer .i64 "i64"

def u64 : Reader Nat := fun n bs => (integer .u64 "u64" n bs).map fun (i, r) => (i.toNat, r)

def u32 : Reader Nat := fun n bs => (integer .u32 "u32" n bs).map fun (i, r) => (i.toNat, r)

/-- A value that is null or read by another reader. -/
def optional {α : Type} (read : Reader α) : Reader (Option α) := fun n bs =>
  match skipSpaces bs with
  | b :: rest =>
    if b == octet 'n' then (readWord ['u', 'l', 'l'] rest).map (none, ·)
    else (read n (b :: rest)).map fun (a, r) => (some a, r)
  | [] => (read n []).map fun (a, r) => (some a, r)

/-- The list of what a reader reads. -/
def list {α : Type} (wanted : String) (read : Reader α) : Reader (List α) := fun n bs =>
  match skipSpaces bs with
  | [] => faultNext [] .endInValue
  | b :: rest =>
    if b == octet '[' then
      match n with
      | 0 => faultNext (b :: rest) .nestingTooDeep
      | n + 1 => readItems (read n) rest
    else wrongType wanted b rest

/-- Further work on what was read, which may find a mismatch. -/
def refine {α β : Type} (read : Reader α) (f : α → Except Mismatch β) : Reader β := fun n bs =>
  match read n bs with
  | .error e => .error e
  | .ok (a, rest) =>
    match f a with
    | .ok b => .ok (b, rest)
    | .error m => mismatch rest m

def unit : Reader Unit := fun _ bs =>
  match skipSpaces bs with
  | [] => faultNext [] .endInValue
  | b :: rest =>
    if b == octet 'n' then (readWord ['u', 'l', 'l'] rest).map ((), ·)
    else wrongType "unit" b rest

/-- The value that a name stands for, among known names or else as `other` says. -/
def nameAmong {α : Type} (known : List (String × α)) (other : Option α) :
    Reader α :=
  refine (textAs "variant identifier") fun name =>
    match known.lookup name, other with
    | some a, _ => .ok a
    | none, some a => .ok a
    | none, none => .error (.unknownVariant name (known.map (·.1)))

/-- One of several names, as a text or as an object of one member that is null. -/
def choice {α : Type} (known : List (String × α)) (other : Option α) : Reader α := fun n bs =>
  match skipSpaces bs with
  | [] => faultNext [] .endInValue
  | b :: rest =>
    if b == octet '"' then nameAmong known other n (b :: rest)
    else if b == octet '\x7b' then
      match n with
      | 0 => faultNext (b :: rest) .nestingTooDeep
      | n + 1 => do
        let (a, rest) ← nameAmong known other n rest
        let ((), rest) ← unit n (← readColon rest)
        match skipSpaces rest with
        | [] => faultNext [] .endInObject
        | b :: rest => if b == octet '\x7d' then .ok (a, rest) else faultHere rest .expectedValue
    else faultNext (b :: rest) .expectedValue

/-- A field of a record that is read into a draft: how it is read, whether the draft has it, and
whether it may be missing at the end of a list. -/
structure Field (δ : Type) where
  name : String
  read : Reader (δ → δ)
  present : δ → Bool
  omissible : Bool

/-- A field that is kept in a component of the draft. -/
def Field.of {δ α : Type} (name : String) (read : Reader α) (get : δ → Option α)
    (set : α → δ → δ) (omissible : Bool) : Field δ where
  name := name
  read n bs := (read n bs).map fun (a, r) => (set a, r)
  present d := (get d).isSome
  omissible := omissible

/-- What a record is called in complaints, what is said of a list of the wrong length, and whether
members that are no fields are refused. -/
structure RecordName where
  name : String
  listName : String
  closed : Bool

/-- A number of things, one or more. -/
def countText (n : Nat) (one many : String) : String :=
  Decimal.showNat n ++ " " ++ if n == 1 then one else many

def RecordName.open (name : String) (fields : Nat) : RecordName :=
  ⟨name, name ++ " with " ++ countText fields "element" "elements", false⟩

/-- A record that has no other members than its fields. -/
def RecordName.closedTo (name : String) : RecordName := ⟨name, name, true⟩

/-- The members of a record from behind a member or the opening bracket on. -/
def recordMembersFrom {δ : Type} (closed : Bool) (fields : List (Field δ)) (nesting : Nat) :
    Nat → Bool → δ → Bytes → Except Fault (δ × Bytes)
  | 0, _, _, bs => faultNext bs .endInObject
  | fuel + 1, first, draft, bs =>
    match nextKey first bs with
    | .error f => .error f
    | .ok (.close bs) => .ok (draft, bs)
    | .ok (.entry bs) =>
      match readText bs with
      | .error f => .error f
      | .ok (key, rest) =>
        match fields.find? (·.name == key) with
        | none =>
          if closed then mismatch rest (.unknownField key (fields.map (·.name)))
          else
            match readColon rest >>= skipValue with
            | .error f => .error f
            | .ok rest => recordMembersFrom closed fields nesting fuel false draft rest
        | some field =>
          if field.present draft then mismatch rest (.duplicateField key)
          else
            match readColon rest >>= field.read nesting with
            | .error f => .error f
            | .ok (set, rest) => recordMembersFrom closed fields nesting fuel false (set draft) rest

/-- The fields of a record from a list, from the one at `index` on. -/
def recordItemsFrom {δ : Type} (nesting : Nat) (wanted : String) :
    List (Field δ) → Nat → δ → Bytes → Except Fault (δ × Bytes)
  | [], _, draft, bs => .ok (draft, bs)
  | field :: fields, index, draft, bs =>
    match nextItem (index == 0) bs with
    | .error f => .error f
    | .ok (.close bs) =>
      if field.omissible then recordItemsFrom nesting wanted fields (index + 1) draft bs
      else mismatch bs (.invalidLength index wanted)
    | .ok (.entry bs) =>
      match field.read nesting bs with
      | .error f => .error f
      | .ok (set, rest) => recordItemsFrom nesting wanted fields (index + 1) (set draft) rest

def endItems (bs : Bytes) : Except Fault Bytes :=
  match skipSpaces bs with
  | [] => faultNext [] .endInList
  | b :: rest =>
    if b == octet ']' then .ok rest
    else if b == octet ',' then
      match skipSpaces rest with
      | c :: after =>
        if c == octet ']' then faultNext (c :: after) .trailingComma
        else faultNext (c :: after) .trailingText
      | [] => faultNext [] .trailingText
    else faultNext (b :: rest) .trailingText

/-- A record of given fields. `finish` makes it from a draft or finds a field missing. -/
def record {δ α : Type} (name : RecordName) (fields : List (Field δ)) (empty : δ)
    (finish : δ → Except Mismatch α) : Reader α := fun n bs =>
  match skipSpaces bs with
  | [] => faultNext [] .endInValue
  | b :: rest =>
    let done (draft : δ) (rest : Bytes) : Except Fault (α × Bytes) :=
      match finish draft with
      | .ok a => .ok (a, rest)
      | .error m => mismatch rest m
    if b == octet '[' then
      match n with
      | 0 => faultNext (b :: rest) .nestingTooDeep
      | n + 1 =>
        match recordItemsFrom n name.listName fields 0 empty rest with
        | .error f => .error f
        | .ok (draft, rest) =>
          match done draft rest with
          | .error f => .error f
          | .ok (a, rest) => (endItems rest).map (a, ·)
    else if b == octet '\x7b' then
      match n with
      | 0 => faultNext (b :: rest) .nestingTooDeep
      | n + 1 =>
        match recordMembersFrom name.closed fields n (rest.length + 1) true empty rest with
        | .error f => .error f
        | .ok (draft, rest) => done draft (rest.drop 1)
    else wrongType name.name b rest

def required {α : Type} (name : String) : Option α → Except Mismatch α
  | some a => .ok a
  | none => .error (.missingField name)

end ReplyPipeline.Json
