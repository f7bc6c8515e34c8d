import ReplyPipeline.Decimal.Integer
import ReplyPipeline.Json.Printer
import ReplyPipeline.Net.Url
import ReplyPipeline.Text.Basic
import ReplyPipeline.Text.Utf8

/-!
# HTTP messages

What a request asks and what a response says, as far as the pipeline cares: of the gateway, which is
asked, and of the servers that the workers ask.
-/
namespace ReplyPipeline.Http

/-! ## What the gateway is asked and answers -/

structure Request where
  method : String
  /-- The path, with whatever follows it. -/
  target : String
  body : Bytes
  deriving DecidableEq, Repr

/-- The path without query and fragment. -/
def Request.path (r : Request) : String :=
  String.ofList (r.target.toList.takeWhile fun c => c != '?' && c != '#')

structure Response where
  status : Nat
  contentType : Option String
  body : List Char
  deriving DecidableEq, Repr

namespace Response

def bare (status : Nat) : Response := ⟨status, none, []⟩

def json (status : Nat) (body : List Char) : Response := ⟨status, some "application/json", body⟩

def plain (status : Nat) (body : String) : Response :=
  ⟨status, some "text/plain; charset=utf-8", body.toList⟩

def headOnly (r : Response) : Response := { r with body := [] }

end Response

/-! ## Status codes -/

namespace Status

def names : List (Nat × String) :=
  [(100, "Continue"), (101, "Switching Protocols"), (102, "Processing"), (103, "Early Hints"),
   (200, "OK"), (201, "Created"), (202, "Accepted"), (203, "Non Authoritative Information"),
   (204, "No Content"), (205, "Reset Content"), (206, "Partial Content"), (207, "Multi-Status"),
   (208, "Already Reported"), (226, "IM Used"),
   (300, "Multiple Choices"), (301, "Moved Permanently"), (302, "Found"), (303, "See Other"),
   (304, "Not Modified"), (305, "Use Proxy"), (307, "Temporary Redirect"),
   (308, "Permanent Redirect"),
   (400, "Bad Request"), (401, "Unauthorized"), (402, "Payment Required"), (403, "Forbidden"),
   (404, "Not Found"), (405, "Method Not Allowed"), (406, "Not Acceptable"),
   (407, "Proxy Authentication Required"), (408, "Request Timeout"), (409, "Conflict"),
   (410, "Gone"), (411, "Length Required"), (412, "Precondition Failed"),
   (413, "Payload Too Large"), (414, "URI Too Long"), (415, "Unsupported Media Type"),
   (416, "Range Not Satisfiable"), (417, "Expectation Failed"), (418, "I'm a teapot"),
   (421, "Misdirected Request"), (422, "Unprocessable Entity"), (423, "Locked"),
   (424, "Failed Dependency"), (425, "Too Early"), (426, "Upgrade Required"),
   (428, "Precondition Required"), (429, "Too Many Requests"),
   (431, "Request Header Fields Too Large"), (451, "Unavailable For Legal Reasons"),
   (500, "Internal Server Error"), (501, "Not Implemented"), (502, "Bad Gateway"),
   (503, "Service Unavailable"), (504, "Gateway Timeout"), (505, "HTTP Version Not Supported"),
   (506, "Variant Also Negotiates"), (507, "Insufficient Storage"), (508, "Loop Detected"),
   (510, "Not Extended"), (511, "Network Authentication Required")]

def text (code : Nat) : String :=
  Decimal.showNat code ++ " " ++ (names.lookup code).getD "<unknown status code>"

def isSuccess (code : Nat) : Bool := 200 ≤ code && code < 300

/-- The code of a final response: a response below 200 only announces one, but for the one that
switches protocols. -/
def isFinal (code : Nat) : Bool := code == 101 || (200 ≤ code && code ≤ 999)

/-- A response with this code has no body. -/
def isBodiless (code : Nat) : Bool := code == 101 || code == 204 || code == 304

end Status

/-!
## Exchanges with a server

A JSON text that is posted to a server, and what comes back. A request is not sent at all if its
URL or one of its header values cannot be.
-/

/-- A JSON text to be posted. -/
structure Posting where
  url : String
  /-- Further headers, by name. -/
  headers : List (String × String)
  body : List Char
  deriving DecidableEq, Repr

/-- A header value has no control characters but tabs. -/
def validHeader (s : String) : Bool :=
  s.toList.all fun c => c == '\t' || (0x20 ≤ c.toNat && c.toNat ≠ 0x7f)

namespace Posting

/-- What the request names, if it can be sent. -/
def target? (p : Posting) : Option String :=
  if p.headers.all fun (_, v) => validHeader v then
    (Net.Url.ofText? p.url).bind fun u =>
      if u.scheme = "http" || u.scheme = "https" then some u.target else none
  else none

/-- A header as the server sees it, without its blank ends. -/
def header? (p : Posting) (name : String) : Option String :=
  (p.headers.lookup name).map Text.trim

end Posting

structure Reply where
  status : Nat
  body : Bytes
  deriving DecidableEq, Repr

namespace Reply

/-- The final response that an answer amounts to, if it is one. -/
def final? (r : Reply) : Option Reply :=
  if !Status.isFinal r.status then none
  else if Status.isBodiless r.status then some { r with body := [] }
  else some r

def text (r : Reply) : String := Text.Utf8.decodeLossy r.body

end Reply
end ReplyPipeline.Http
