import ReplyPipeline.Json.Lexeme

/-!
# Reading JSON text

Text is read in one pass, so that of two faults the one that comes first is reported. Readers
count down the nesting still allowed: a text may nest 127 arrays and objects and no more. A value
that nobody wants is passed over without that bound.
-/
namespace ReplyPipeline.Json

/-- How deep arrays and objects may nest. -/
def nestingLimit : Nat := 127

/-- Where a list or an object stands between two of its entries. -/
inductive Next where
  /-- An entry begins here. -/
  | entry (bs : Bytes)
  /-- The closing bracket is here. -/
  | close (bs : Bytes)

/-- The next item of a list; before all but the first there is a comma. -/
def nextItem (first : Bool) (bs : Bytes) : Except Fault Next :=
  match skipSpaces bs with
  | [] => faultNext [] .endInList
  | b :: rest =>
    if b == octet ']' then .ok (.close (b :: rest))
    else if first then .ok (.entry (b :: rest))
    else if b == octet ',' then
      match skipSpaces rest with
      | [] => faultNext [] .endInValue
      | c :: after =>
        if c == octet ']' then faultNext (c :: after) .trailingComma else .ok (.entry (c :: after))
    else faultNext (b :: rest) .expectedListSeparator

/-- The next key of an object; before all but the first there is a comma. -/
def nextKey (first : Bool) (bs : Bytes) : Except Fault Next :=
  match skipSpaces bs with
  | [] => faultNext [] .endInObject
  | b :: rest =>
    if b == octet '\x7d' then .ok (.close (b :: rest))
    else if first then
      if b == octet '"' then .ok (.entry rest) else faultNext (b :: rest) .keyNotString
    else if b == octet ',' then
      match skipSpaces rest with
      | [] => faultNext [] .endInValue
      | c :: after =>
        if c == octet '"' then .ok (.entry after)
        else if c == octet '\x7d' then faultNext (c :: after) .trailingComma
        else faultNext (c :: after) .keyNotString
    else faultNext (b :: rest) .expectedObjectSeparator

def readColon (bs : Bytes) : Except Fault Bytes :=
  match skipSpaces bs with
  | [] => faultNext [] .endInObject
  | b :: rest => if b == octet ':' then .ok rest else faultNext (b :: rest) .expectedColon

/-- The items of a list from behind an item or the opening bracket on, with those before. -/
def readItemsFrom {α : Type} (read : Bytes → Except Fault (α × Bytes)) :
    Nat → Bool → List α → Bytes → Except Fault (List α × Bytes)
  | 0, _, _, bs => faultNext bs .endInList
  | fuel + 1, first, reversed, bs =>
    match nextItem first bs with
    | .error f => .error f
    | .ok (.close bs) => .ok (reversed.reverse, bs.drop 1)
    | .ok (.entry bs) =>
      match read bs with
      | .error f => .error f
      | .ok (a, rest) => readItemsFrom read fuel false (a :: reversed) rest

def readItems {α : Type} (read : Bytes → Except Fault (α × Bytes)) (bs : Bytes) :
    Except Fault (List α × Bytes) :=
  readItemsFrom read (bs.length + 1) true [] bs

/-- The members of an object from behind a member or the opening bracket on, with those before. -/
def readMembersFrom {α : Type} (read : Bytes → Except Fault (α × Bytes)) :
    Nat → Bool → List (String × α) → Bytes → Except Fault (List (String × α) × Bytes)
  | 0, _, _, bs => faultNext bs .endInObject
  | fuel + 1, first, reversed, bs =>
    match nextKey first bs with
    | .error f => .error f
    | .ok (.close bs) => .ok (reversed.reverse, bs.drop 1)
    | .ok (.entry bs) =>
      match readText bs with
      | .error f => .error f
      | .ok (key, rest) =>
        match readColon rest with
        | .error f => .error f
        | .ok rest =>
          match read rest with
          | .error f => .error f
          | .ok (a, rest) => readMembersFrom read fuel false ((key, a) :: reversed) rest

/-- The members of an object from behind its opening bracket on, as they stand in the text. -/
def readMembers {α : Type} (read : Bytes → Except Fault (α × Bytes)) (bs : Bytes) :
    Except Fault (List (String × α) × Bytes) :=
  readMembersFrom read (bs.length + 1) true [] bs

/-- A value that is neither list nor object, by the octet it begins with. -/
def readScalar (b : UInt8) (rest : Bytes) : Except Fault (Value × Bytes) :=
  if b == octet 'n' then (readWord ['u', 'l', 'l'] rest).map (.null, ·)
  else if b == octet 't' then (readWord ['r', 'u', 'e'] rest).map (.bool true, ·)
  else if b == octet 'f' then (readWord ['a', 'l', 's', 'e'] rest).map (.bool false, ·)
  else if b == octet '"' then (readText rest).map fun (s, r) => (.string s, r)
  else if startsNumber b then (readNumber (b :: rest)).map fun (n, r) => (.number n, r)
  else faultNext (b :: rest) .expectedValue

def readValue (nesting : Nat) (bs : Bytes) : Except Fault (Value × Bytes) :=
  match skipSpaces bs with
  | [] => faultNext [] .endInValue
  | b :: rest =>
    if b == octet '[' then
      match nesting with
      | 0 => faultNext (b :: rest) .nestingTooDeep
      | n + 1 => (readItems (readValue n) rest).map fun (vs, r) => (.array vs, r)
    else if b == octet '\x7b' then
      match nesting with
      | 0 => faultNext (b :: rest) .nestingTooDeep
      | n + 1 => (readMembers (readValue n) rest).map fun (ms, r) => (.ofMembers ms, r)
    else readScalar b rest

/-- A bracket that is open while a value is passed over. -/
inductive Open where
  | list
  | object
  deriving DecidableEq, Repr

def Open.closing : Open → UInt8
  | .list => octet ']'
  | .object => octet '\x7d'

/-- The fault at the end of the text. -/
def Open.atEnd : Open → Cause
  | .list => .endInList
  | .object => .endInObject

/-- The fault where neither comma nor closing bracket stands. -/
def Open.atOther : Open → Cause
  | .list => .expectedListSeparator
  | .object => .expectedObjectSeparator

def skipScalar (b : UInt8) (rest : Bytes) : Except Fault Bytes :=
  if b == octet 'n' then readWord ['u', 'l', 'l'] rest
  else if b == octet 't' then readWord ['r', 'u', 'e'] rest
  else if b == octet 'f' then readWord ['a', 'l', 's', 'e'] rest
  else if b == octet '"' then skipText rest
  else if b == octet '-' then skipUnsigned rest
  else if isDigit b then skipUnsigned (b :: rest)
  else faultNext (b :: rest) .expectedValue

/-- Passes over what stands before the next value inside an open bracket: a key and its colon. -/
def skipToValue (o : Open) (bs : Bytes) : Except Fault Bytes :=
  match o with
  | .list => .ok bs
  | .object =>
    match skipSpaces bs with
    | [] => faultNext [] .endInObject
    | b :: rest =>
      if b == octet '"' then do readColon (← skipText rest)
      else faultNext (b :: rest) .keyNotString

/-- Passes over values inside open brackets. `done` says that a value has just ended. -/
def skipFrom : Nat → Bool → List Open → Bytes → Except Fault Bytes
  | 0, _, _, bs => faultNext bs .endInValue
  | _ + 1, true, [], bs => .ok bs
  | fuel + 1, true, o :: outer, bs =>
    match skipSpaces bs with
    | [] => faultNext [] o.atEnd
    | b :: rest =>
      if b == octet ',' then
        match skipToValue o rest with
        | .error f => .error f
        | .ok rest => skipFrom fuel false (o :: outer) rest
      else if b == o.closing then skipFrom fuel true outer rest
      else faultNext (b :: rest) o.atOther
  | fuel + 1, false, outer, bs =>
    match skipSpaces bs with
    | [] => faultNext [] .endInValue
    | b :: rest =>
      let opened : Option Open :=
        if b == octet '[' then some .list else if b == octet '\x7b' then some .object else none
      match opened with
      | none =>
        match skipScalar b rest with
        | .error f => .error f
        | .ok rest => skipFrom fuel true outer rest
      | some o =>
        match skipSpaces rest with
        | [] => faultNext [] o.atEnd
        | c :: after =>
          if c == o.closing then skipFrom fuel true outer after
          else
            match skipToValue o (c :: after) with
            | .error f => .error f
            | .ok rest => skipFrom fuel false (o :: outer) rest

def skipValue (bs : Bytes) : Except Fault Bytes := skipFrom (2 * bs.length + 2) false [] bs

/-- A reader of a part of a text, given the nesting still allowed. -/
abbrev Reader (α : Type) := Nat → Bytes → Except Fault (α × Bytes)

/-- Reads a whole text; behind it there is nothing but blanks. -/
def Reader.run {α : Type} (read : Reader α) (text : Bytes) : Except Fault α :=
  match read nestingLimit text with
  | .error f => .error f
  | .ok (a, rest) =>
    match skipSpaces rest with
    | [] => .ok a
    | bs => faultNext bs .trailingText

def Value.parse (text : Bytes) : Except Fault Value := Reader.run readValue text

end ReplyPipeline.Json
