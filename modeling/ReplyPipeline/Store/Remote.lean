import ReplyPipeline.Net.Url
import ReplyPipeline.Pipeline.Idempotency
import ReplyPipeline.Store.Resp

/-!
# A store on a server

The store on a server is reached by a URL. It connects on the first call and stays connected; a
call that finds the connection broken off fails, and the next one connects anew. To connect it logs
in, if the URL has a password, and selects its database, unless that is the first one.
-/
namespace ReplyPipeline.Store

/-- How to log in and what to select. -/
structure Remote where
  user : Option String := none
  password : Option String := none
  database : Int := 0
  deriving DecidableEq, Repr

namespace Remote

/-- The text that a part of a URL stands for; nothing stands for no text. -/
def part? (s : String) : Option (Option String) :=
  if s = "" then some none else (Text.Percent.decodeText? s).map some

/-- The database that a path names, slashes at its ends left out. -/
def database? (path : String) : Option Int :=
  let isSlash (c : Char) : Bool := c == '/'
  let name := ((path.toList.dropWhile isSlash).reverse.dropWhile isSlash).reverse
  if name.isEmpty then some 0 else (Decimal.readInteger .i64 (String.ofList name)).toOption

/-- The store at a host and a port. Its database is the path. -/
def ofHostUrl? (u : Net.Url) : Option Remote := do
  let _ ← u.host
  let database ← database? u.path
  let user ← part? u.user
  let password ← part? (u.password.getD "")
  return ⟨user, password, database⟩

/-- The store behind a file of the same machine. Its database, user and password are in the
query. -/
def ofFileUrl? (u : Net.Url) : Option Remote :=
  if u.isOpaque || (u.host.any (· != "localhost")) then none
  else
    let query := u.queryPairs.reverse
    let database := match query.lookup "db" with
      | some db => (Decimal.readInteger .i64 db).toOption
      | none => some 0
    database.map fun db => ⟨query.lookup "user", query.lookup "pass", db⟩

def ofUrl? (url : String) : Option Remote :=
  (Net.Url.ofText? url).bind fun u =>
    if u.scheme = "redis" then ofHostUrl? u
    else if u.scheme = "unix" || u.scheme = "redis+unix" then ofFileUrl? u
    else none

def setup (r : Remote) : List (List String) :=
  let login := match r.password with
    | some p => [["AUTH"] ++ r.user.toList ++ [p]]
    | none => []
  login ++ if r.database = 0 then [] else [["SELECT", Decimal.showInt r.database]]

/-- A store, and whether it is connected. -/
structure Session where
  remote : Remote
  /-- The server cannot be reached. -/
  unreachable : Bool := false
  connected : Bool := false
  deriving DecidableEq, Repr

namespace Session

/-- A call that the server answers with some octets, or by hanging up if there are none; what comes
of it, the commands that are sent, and the session after it. Without a server a call takes as
long as it may. -/
def call (s : Session) (octets : Bytes) (c : Call) (limit : Option Span) :
    Except Error c.Answer × List (List String) × Session :=
  if s.unreachable then
    let failure : Error := match limit with
      | some l => .timeout l
      | none => .connection "no server"
    (.error failure, [], s)
  else
    let commands := (if s.connected then [] else s.remote.setup) ++ [Resp.words c]
    if octets.isEmpty then
      (.error (.connection "the server hung up"), commands, { s with connected := false })
    else (Resp.answer (.ofBytes octets) c, commands, { s with connected := true })

/-- Runs a program that asks for nothing but the store; the server answers each call with the same
octets. -/
def perform {α : Type} (octets : Bytes) :
    Action α → Session → Option (α × List (List String) × Session)
  | .done a, s => some (a, [], s)
  | .call r next, s =>
    match r, next with
    | .store c limit, next =>
      let (outcome, commands, s) := s.call octets c limit
      (perform octets (next outcome) s).map fun (a, more, s) => (a, commands ++ more, s)
    | _, _ => none

end Session
end Remote
end ReplyPipeline.Store
