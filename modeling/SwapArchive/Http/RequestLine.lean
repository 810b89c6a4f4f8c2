import SwapArchive.Http.Url
/-!
# Request lines

A request reaches the server as the line `METHOD TARGET HTTP/1.0`. `RequestLine.read` gives the
target as a URL, or the first reason the line is refused (`LineFault`), checking in this order:
the line, cut at its first line feed (and a carriage return before it), holds two spaces around
the target (`malformed`); the method is a non-empty run of token characters (`method`); the
version is `HTTP/` and two digits around a dot (`version`); the target reads as a request target
(`Url.parseRequest`), a `CONNECT` target not starting with `/` being an authority read behind
`http://`.
-/

namespace SwapArchive

/-- Why a request line is refused. -/
inductive LineFault where
  /-- The line does not hold two spaces. -/
  | malformed (line : String)
  /-- The method is empty or holds a character that is not a token character. -/
  | method (name : String)
  /-- The version is not `HTTP/` and two digits around a dot. -/
  | version (text : String)
  /-- The target, as read, is not a request target. -/
  | target (text reason : String)
  deriving DecidableEq, Repr

namespace LineFault

/-- The message of a refusal. -/
def message : LineFault → String
  | .malformed l => "malformed HTTP request " ++ Quoted.quote l
  | .method m => "invalid method " ++ Quoted.quote m
  | .version v => "malformed HTTP version " ++ Quoted.quote v
  | .target t r => "parse " ++ Quoted.quote t ++ ": " ++ r

end LineFault

namespace RequestLine

/-- Can the character appear in a method name, an HTTP token? -/
def isTokenChar (c : Char) : Bool :=
  c.isAlphanum || "!#$%&*+-.^_|~".toList.contains c || c.toNat = 39 || c.toNat = 96

/-- Is the text an HTTP version `HTTP/x.y`, one digit each? -/
def isVersion (v : String) : Bool :=
  match v.toUTF8.toList with
  | [72, 84, 84, 80, 47, x, 46, y] => 48 ≤ x && x ≤ 57 && 48 ≤ y && y ≤ 57
  | _ => false

/-- The line a method and a target make, up to its first line feed; a carriage return right
before the line feed goes with it. -/
def line (method target : String) : List Char :=
  let cs := (method ++ " " ++ target ++ " HTTP/1.0").toList
  if cs.contains '\n' then
    let l := cs.takeWhile (· ≠ '\n')
    if l.getLast? = some '\r' then l.dropLast else l
  else cs

/-- Reads the request line of a method and a target: the target as a URL, or why the line is
refused. -/
def read (method target : String) : Except LineFault Url := do
  let l := line method target
  let name := l.takeWhile (· ≠ ' ')
  let rest := (l.dropWhile (· ≠ ' ')).drop 1
  let uri := rest.takeWhile (· ≠ ' ')
  let proto := (rest.dropWhile (· ≠ ' ')).drop 1
  if ¬(l.contains ' ' ∧ rest.contains ' ') then throw (.malformed (String.ofList l))
  if name.isEmpty ∨ ¬name.all isTokenChar then throw (.method (String.ofList name))
  if ¬isVersion (String.ofList proto) then throw (.version (String.ofList proto))
  let authority := String.ofList name = "CONNECT" ∧ uri.head? ≠ some '/'
  let raw := if authority then "http://" ++ String.ofList uri else String.ofList uri
  match Url.parseRequest raw with
  | .error r => throw (.target raw r)
  | .ok u => pure (if authority then { u with scheme := "" } else u)

end RequestLine

end SwapArchive
