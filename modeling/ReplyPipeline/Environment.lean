import ReplyPipeline.Text.Basic

/-!
# Environments

An environment is a set of named texts, to which a file may add.
-/
namespace ReplyPipeline

/-- The texts under their keys. -/
abbrev Environment := String → Option String

namespace Environment

/-- The text under a key without its blank ends, unless nothing is left. -/
def value? (env : Environment) (key : String) : Option String :=
  ((env key).map Text.trim).filter (· ≠ "")

/-- The text under a key, or else a default. -/
def text (env : Environment) (key default : String) : String := (env.value? key).getD default

/-- The environment with a text under a key, unless there is one already. -/
def supply (env : Environment) (key value : String) : Environment :=
  fun k => if k = key then (env key).or (some value) else env k

/-!
## Files

A file adds texts to an environment, one assignment a line; what the environment has already stays
as it is. The file is read up to the first line that is no assignment.

A value may have stretches in single quotes, which stand for themselves, and stretches in double
quotes. Outside single quotes a backslash escapes a character, and `$` with a name stands for the
text under that name, or for nothing if there is none. A blank ends a value that is not quoted.
Lines belong together as long as a quote is open or the last character is escaped.
-/

/-! ### Lines -/

/-- What is open at a place in a line. -/
inductive LineState where
  | plain
  /-- Behind a blank: a `#` would begin a comment. -/
  | blank
  | escape
  | quoted (mark : Char)
  | quotedEscape (mark : Char)
  deriving DecidableEq, Repr

def LineState.afterPlain (c : Char) : LineState :=
  if c = '\\' then .escape
  else if c = '"' || c = '\'' then .quoted c
  else .plain

def LineState.next (s : LineState) (c : Char) : LineState :=
  match s with
  | .plain => if Text.isBlank c && c != '\n' && c != '\r' then .blank else afterPlain c
  | .blank => afterPlain c
  | .escape => .plain
  | .quoted mark =>
    if c = '\\' then .quotedEscape mark else if c = mark then .plain else .quoted mark
  | .quotedEscape mark => .quoted mark

/-- A line up to its comment, and what is open at its end if it has none. -/
def scanLine : LineState → List Char → List Char × Option LineState
  | s, [] => ([], some s)
  | s, c :: rest =>
    if s = .blank && c = '#' then ([], none)
    else
      let (line, open?) := scanLine (s.next c) rest
      (c :: line, open?)

def cutLines : List Char → List (List Char)
  | [] => []
  | c :: rest =>
    if c = '\n' then [c] :: cutLines rest
    else
      match cutLines rest with
      | [] => [[c]]
      | line :: more => (c :: line) :: more

def dropLineEnd (line : List Char) : List Char :=
  match line.reverse with
  | '\n' :: '\r' :: rest => rest.reverse
  | '\n' :: rest => rest.reverse
  | _ => line

/-- Joins the lines that belong together, given what is open and the lines before. Where something
stays open there is no line. A line that begins with `#` counts as empty. -/
def joinLines : LineState → List Char → List (List Char) → List (Option (List Char))
  | s, _, [] => if s = .plain then [] else [none]
  | s, before, line :: rest =>
    let whole := before ++ line
    if (whole.dropWhile Text.isBlank).head? = some '#' then some [] :: joinLines .plain [] rest
    else
      match scanLine s line with
      | (part, none) => some (before ++ part) :: joinLines .plain [] rest
      | (_, some .plain) => some (dropLineEnd whole) :: joinLines .plain [] rest
      | (_, some s) => joinLines s whole rest

/-! ### Values -/

/-- Belongs to a name behind `$`. Every visible character beyond ASCII does. -/
def isNameChar (c : Char) : Bool := c.isAlphanum || (0x80 ≤ c.toNat && !Text.isBlank c)

/-- Where the reading of a value stands. Outside single quotes it may be inside double quotes. -/
inductive ValueState where
  | plain (double : Bool)
  | single
  | escape (double : Bool)
  /-- In a name behind `$`, of which this has been read. -/
  | name (double : Bool) (reversed : List Char)
  /-- In a name in braces. -/
  | braced (double : Bool) (reversed : List Char)
  /-- Behind the blank that ends the value. -/
  | ended
  deriving DecidableEq, Repr

def escaped? (c : Char) : Option Char :=
  if c = 'n' then some '\n'
  else if c = '\\' || c = '\'' || c = '"' || c = '$' || c = ' ' then some c
  else none

/-- The text under a name that was read in reverse. -/
def substitute (env : Environment) (reversed : List Char) : List Char :=
  ((env (String.ofList reversed.reverse)).getD "").toList

/-- Where the reading stands behind a character that is no part of a name. -/
def ValueState.afterPlain (double : Bool) (c : Char) : ValueState × List Char :=
  if c = '$' then (.name double [], [])
  else if c = '\\' then (.escape double, [])
  else if c = '"' then (.plain !double, [])
  else if double then (.plain true, [c])
  else if c = '\'' then (.single, [])
  else if c = ' ' || c = '\t' then (.ended, [])
  else (.plain false, [c])

/-- Where the reading stands behind a character, and what the character adds to the value. The
character that ends a name stands for itself, be it a quote or a blank, unless it is a `$`. -/
def ValueState.next (env : Environment) (s : ValueState) (c : Char) :
    Option (ValueState × List Char) :=
  match s with
  | .plain double => some (afterPlain double c)
  | .single => some (if c = '\'' then (.plain false, []) else (.single, [c]))
  | .escape double => (escaped? c).map fun d => (.plain double, [d])
  | .name double reversed =>
    if isNameChar c then some (.name double (c :: reversed), [])
    else if c = '\x7b' && reversed.isEmpty then some (.braced double [], [])
    else
      let text := substitute env reversed
      some (if c = '$' then (.name double [], text) else (.plain double, text ++ [c]))
  | .braced double reversed =>
    some (if c = '\x7d' then (.plain double, substitute env reversed)
      else (.braced double (c :: reversed), []))
  | .ended => if c = ' ' || c = '\t' then some (.ended, []) else none

/-- What the end of a line adds to a value, unless something is open. -/
def ValueState.finish (env : Environment) : ValueState → Option (List Char)
  | .plain false => some []
  | .escape false => some []
  | .name false reversed => some (substitute env reversed)
  | .ended => some []
  | _ => none

def readValue (env : Environment) : ValueState → List Char → Option (List Char)
  | s, [] => s.finish env
  | s, c :: rest =>
    if s = .ended && c = '#' then some []
    else do
      let (s, text) ← s.next env c
      return text ++ (← readValue env s rest)

/-! ### Assignments -/

/-- The key at the beginning of a text, and what stands behind it. -/
def readKey (cs : List Char) : Option (String × List Char) :=
  let key := cs.takeWhile fun c => c.isAlphanum || c == '_' || c == '.'
  match key with
  | first :: _ =>
    if first.isAlpha || first == '_' then some (String.ofList key, cs.drop key.length) else none
  | [] => none

def readEquals (cs : List Char) : Option (List Char) :=
  match cs.dropWhile Text.isBlank with
  | '=' :: rest => some rest
  | _ => none

/-- A key and what stands behind its equals sign. The word `export` may come first. -/
def readTarget (cs : List Char) : Option (String × List Char) := do
  let (key, rest) ← readKey cs
  match readEquals rest with
  | some value => return (key, value)
  | none =>
    if key = "export" then
      let (key, rest) ← readKey (rest.dropWhile Text.isBlank)
      return (key, ← readEquals rest)
    else none

/-- The text is empty or a comment. -/
def isNothing (cs : List Char) : Bool := cs.isEmpty || cs.head? == some '#'

def readLine (env : Environment) (line : List Char) : Option Environment :=
  let line := Text.trimChars line
  if isNothing line then some env
  else do
    let (key, rest) ← readTarget line
    let rest := rest.dropWhile Text.isBlank
    let value ← if isNothing rest then some [] else readValue env (.plain false) rest
    return env.supply key (String.ofList value)

/-- The environment after some lines, up to the first that is no assignment. -/
def readLines : Environment → List (Option (List Char)) → Environment
  | env, some line :: rest =>
    match readLine env line with
    | some env => readLines env rest
    | none => env
  | env, _ => env

/-- The environment with what a file adds to it. A byte order mark in front does not count. -/
def withFile (env : Environment) (text : String) : Environment :=
  let cs := match text.toList with
    | '\ufeff' :: rest => rest
    | cs => cs
  env.readLines (joinLines .plain [] (cutLines cs))

end Environment
end ReplyPipeline
