import ReplyPipeline.Decimal.Binary

/-!
# JSON values

A number is a whole number of at most 64 bits or a number of double precision. The members of an
object stand in rising order of their keys, one for each key; `insert` keeps that order, and a
later member takes the place of an earlier one of the same key.
-/
namespace ReplyPipeline.Json

/-- A whole number of 64 bits, with or without sign, or a number of double precision. -/
inductive Number where
  | integer (n : Int)
  | real (x : Decimal.Binary)
  deriving DecidableEq, Repr

inductive Value where
  | null
  | bool (b : Bool)
  | number (n : Number)
  | string (s : String)
  | array (items : List Value)
  | object (members : List (String × Value))
  deriving Repr

instance : Inhabited Value := ⟨.null⟩

/-- The members with one more. -/
def insertMember (key : String) (value : Value) : List (String × Value) → List (String × Value)
  | [] => [(key, value)]
  | (k, v) :: rest =>
    if key < k then (key, value) :: (k, v) :: rest
    else if key = k then (key, value) :: rest
    else (k, v) :: insertMember key value rest

/-- The object of some members; the last one of a key counts. -/
def Value.ofMembers (members : List (String × Value)) : Value :=
  .object (members.foldl (fun acc (k, v) => insertMember k v acc) [])

namespace Value

def get? (v : Value) (key : String) : Option Value :=
  match v with
  | .object members => members.lookup key
  | _ => none

def isObject : Value → Bool
  | .object _ => true
  | _ => false

def text? : Value → Option String
  | .string s => some s
  | _ => none

def i64? : Value → Option Int
  | .number (.integer n) => if n < 2 ^ 63 then some n else none
  | _ => none

def u64? : Value → Option Nat
  | .number (.integer n) => if 0 ≤ n then some n.toNat else none
  | _ => none

/-- The number of double precision nearest to the number that the value is. -/
def double? : Value → Option Decimal.Binary
  | .number (.integer n) => Decimal.Format.double.round (n < 0) n.natAbs 1
  | .number (.real x) => some x
  | _ => none

/-- Nothing that counts: null, false, zero, or an empty text, array or object. -/
def isVoid : Value → Bool
  | .null => true
  | .bool b => !b
  | .number (.integer n) => n == 0
  | .number (.real x) => x.isZero
  | .string s => s.isEmpty
  | .array items => items.isEmpty
  | .object members => members.isEmpty

end Value

def Number.sameValue : Number → Number → Bool
  | .integer m, .integer n => m == n
  | .real x, .real y => x.sameValue y
  | _, _ => false

mutual

/-- Equal values, the two zeros of double precision being one number. -/
def Value.same : Value → Value → Bool
  | .null, .null => true
  | .bool a, .bool b => a == b
  | .number m, .number n => m.sameValue n
  | .string s, .string t => s == t
  | .array xs, .array ys => sameItems xs ys
  | .object ms, .object ns => sameMembers ms ns
  | _, _ => false

def sameItems : List Value → List Value → Bool
  | [], [] => true
  | v :: vs, w :: ws => v.same w && sameItems vs ws
  | _, _ => false

def sameMembers : List (String × Value) → List (String × Value) → Bool
  | [], [] => true
  | (k, v) :: ms, (l, w) :: ns => k == l && v.same w && sameMembers ms ns
  | _, _ => false

end

end ReplyPipeline.Json
