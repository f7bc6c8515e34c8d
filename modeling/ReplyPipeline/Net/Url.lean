import ReplyPipeline.Net.SocketAddress
import ReplyPipeline.Text.Utf8
import ReplyPipeline.Text.Basic

/-!
# URLs

An absolute URL in its parts, as the URL standard reads it: tabs and line breaks do not count, nor
do controls and spaces at the ends; each part is percent-encoded by its own set; `.` and `..` in a
path are resolved. The schemes `http` and `https` are special: their host is not empty, a backslash
is as good as a slash, and the path is never empty.

Hosts of special schemes are taken as they stand, so names beyond ASCII have no place in them.
-/
namespace ReplyPipeline.Net

/-- An absolute URL, its parts percent-encoded. -/
structure Url where
  scheme : String
  user : String := ""
  /-- There is none where nothing stands behind the colon. -/
  password : Option String := none
  /-- There is none where the host is empty or no double slash stands behind the scheme. -/
  host : Option String := none
  /-- There is none where it is the scheme's own. -/
  port : Option Nat := none
  /-- The path begins with a slash, or is empty, or there is no way to resolve it. -/
  path : String := ""
  /-- The path is not made of segments. -/
  isOpaque : Bool := false
  query : Option String := none
  deriving DecidableEq, Repr

namespace Url

def pathSet : List Char := [' ', '"', '<', '>', '\x60', '#', '?', '\x7b', '\x7d']

def userSet : List Char := pathSet ++ ['/', ':', ';', '=', '@', '[', '\\', ']', '^', '|']

def querySet (special : Bool) : List Char :=
  [' ', '"', '#', '<', '>'] ++ if special then ['\''] else []

/-- The characters that no host may have. -/
def hostBarred : List Char :=
  ['\x00', ' ', '#', '/', ':', '<', '>', '?', '@', '[', '\\', ']', '^', '|']

/-- The schemes whose URLs are special, with their ports. -/
def specialPorts : List (String × Nat) := [("http", 80), ("https", 443)]

def splitScheme (cs : List Char) : Option (String × List Char) :=
  let name := cs.takeWhile (· != ':')
  let valid (c : Char) : Bool := c.isAlphanum || c == '+' || c == '-' || c == '.'
  match name, cs.drop name.length with
  | first :: _, ':' :: rest =>
    if first.isAlpha && name.all valid then some (String.ofList (name.map Char.toLower), rest)
    else none
  | _, _ => none

def endsAuthority (special : Bool) (c : Char) : Bool :=
  c == '/' || c == '?' || c == '#' || (special && c == '\\')

/-- What stands in front of the last `@` of an authority, if there is one, and what behind it. -/
def splitUser (authority : List Char) : Option (List Char) × List Char :=
  let host := (authority.reverse.takeWhile (· != '@')).reverse
  if host.length = authority.length then (none, authority)
  else (some (authority.take (authority.length - host.length - 1)), host)

def readUser (cs : List Char) : String × Option String :=
  let user := cs.takeWhile (· != ':')
  let password := cs.drop (user.length + 1)
  let encoded (part : List Char) := String.ofList (Text.Percent.encode userSet part)
  (encoded user, if password.isEmpty then none else some (encoded password))

/-- A host ends at a colon outside brackets. -/
def splitHost : Bool → List Char → List Char × List Char
  | _, [] => ([], [])
  | bracketed, c :: rest =>
    if c == ':' && !bracketed then ([], c :: rest)
    else
      let (host, after) := splitHost (c == '[' || (bracketed && c != ']')) rest
      (c :: host, after)

/-- The host as it is written. -/
def readHost (cs : List Char) : Option String :=
  match cs with
  | '[' :: rest =>
    match rest.reverse with
    | ']' :: inner =>
      match SocketAddress.readSix inner.reverse with
      | some (groups, []) => some ("[" ++ SocketAddress.sixText groups ++ "]")
      | _ => none
    | _ => none
  | _ =>
    if cs.any hostBarred.contains then none
    else some (String.ofList (Text.Percent.encode [] cs))

/-- The port behind a colon. Nothing behind it is no port. -/
def readPort (standard : Option Nat) (cs : List Char) : Option (Option Nat) :=
  match cs with
  | [] => some none
  | _ :: digits =>
    if digits.isEmpty then some none
    else
      match SocketAddress.readDecimal (2 ^ 16) digits with
      | some (port, []) => some (if some port = standard then none else some port)
      | _ => none

/-- Where a segment of a path leads. -/
inductive Segment where
  | here
  | up
  | name (s : List Char)
  deriving DecidableEq, Repr

/-- The segment that a text is. A point may be written as `%2e`. -/
def Segment.ofText (cs : List Char) : Segment :=
  let rec points : List Char → Option Nat
    | [] => some 0
    | '.' :: rest => (points rest).map (· + 1)
    | '%' :: '2' :: 'e' :: rest => (points rest).map (· + 1)
    | '%' :: '2' :: 'E' :: rest => (points rest).map (· + 1)
    | _ => none
  match points cs with
  | some 1 => .here
  | some 2 => .up
  | _ => .name (Text.Percent.encode pathSet cs)

def segments (special : Bool) : List Char → List (List Char)
  | [] => [[]]
  | c :: rest =>
    if c == '/' || (special && c == '\\') then [] :: segments special rest
    else
      match segments special rest with
      | [] => [[c]]
      | s :: more => (c :: s) :: more

/-- The names that segments lead to, in reverse, given the names before them. A path that ends with
`.` or `..` ends with a slash. -/
def resolve : List (List Char) → List Segment → List (List Char)
  | reversed, [] => reversed
  | reversed, [.here] => [] :: reversed
  | reversed, [.up] => [] :: reversed.drop 1
  | reversed, .here :: rest => resolve reversed rest
  | reversed, .up :: rest => resolve (reversed.drop 1) rest
  | reversed, .name s :: rest => resolve (s :: reversed) rest

def readSegments (special : Bool) (cs : List Char) : String :=
  let names := (resolve [] ((segments special cs).map Segment.ofText)).reverse
  String.ofList (names.flatMap fun s => '/' :: s)

def readPath (special : Bool) (cs : List Char) : String :=
  match cs with
  | [] => if special then "/" else ""
  | c :: rest =>
    readSegments special (if c == '/' || (special && c == '\\') then rest else c :: rest)

def readQuery (special : Bool) (cs : List Char) : Option String :=
  match cs with
  | [] => none
  | _ :: rest => some (String.ofList (Text.Percent.encode (querySet special) rest))

def readAuthority (scheme : String) (special : Bool) (cs path : List Char)
    (query : Option String) : Option Url := do
  let (login, place) := splitUser cs
  let (user, password) := match login with
    | some l => readUser l
    | none => ("", none)
  let (host, after) := splitHost false place
  let port ← readPort (specialPorts.lookup scheme) after
  let host ← readHost host
  if host = "" then
    if special || !after.isEmpty || login.isSome then none
    else return { scheme, path := readPath special path, query }
  else
    return {
      scheme, user, password, host := some host, port, path := readPath special path, query }

/-- The characters that count. -/
def significant (s : String) : List Char :=
  let isEnd (c : Char) : Bool := c.toNat ≤ 0x20
  let trimmed := ((s.toList.dropWhile isEnd).reverse.dropWhile isEnd).reverse
  trimmed.filter fun c => c != '\t' && c != '\n' && c != '\r'

def ofText? (s : String) : Option Url := do
  let (scheme, rest) ← splitScheme (significant s)
  let special := (specialPorts.lookup scheme).isSome
  let body := rest.takeWhile (· != '#')
  let hierarchy := body.takeWhile (· != '?')
  let query := readQuery special (body.drop hierarchy.length)
  let withAuthority (behind : List Char) : Option Url :=
    let authority := behind.takeWhile fun c => !endsAuthority special c
    readAuthority scheme special authority (behind.drop authority.length) query
  if special then withAuthority (hierarchy.dropWhile fun c => c == '/' || c == '\\')
  else
    match hierarchy with
    | '/' :: '/' :: behind => withAuthority behind
    | '/' :: path => return { scheme, path := readSegments special path, query }
    | _ =>
      return {
        scheme
        path := String.ofList (Text.Percent.encode [] hierarchy)
        isOpaque := true
        query }

/-- A text of a query as it was meant: a plus sign is a space. -/
def formText (cs : List Char) : String :=
  Text.Utf8.decodeLossy (Text.Percent.decode (cs.map fun c => if c = '+' then ' ' else c))

/-- The names and values of a query. -/
def queryPairs (u : Url) : List (String × String) :=
  ((Text.splitOn '&' (u.query.getD "").toList).filter (!·.isEmpty)).map fun pair =>
    let name := pair.takeWhile (· != '=')
    (formText name, formText (pair.drop (name.length + 1)))

/-- What a request for the URL names. -/
def target (u : Url) : String :=
  u.path ++ match u.query with
    | some q => "?" ++ q
    | none => ""

end Url
end ReplyPipeline.Net
