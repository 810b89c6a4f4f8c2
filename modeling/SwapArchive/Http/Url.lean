import SwapArchive.Text.Case
import SwapArchive.Http.IpAddress
import SwapArchive.Text.Bytes
import SwapArchive.Text.Quoted
/-!
# Reading URLs

`Url.parse` splits a URL into scheme, user information, host, path, query and fragment, or a
rootless part after a scheme (the `a@b.c` of `mailto:a@b.c`). It fails, saying why, on a control
character, a scheme part starting with `:`, a first relative segment holding `:`, a bad port or
escape, a host or user character out of place, and a bracketed host that is not an IPv6 address
(`IpAddress.read`): `http://[1.2.3.4]/` is refused. `Url.parseRequest` reads a request target
(no fragment cut off, no relative reference); `Url.pathBytes?` and `Url.escapePath` go between an
escaped path and its bytes. `Url.isAbsolute` is the test of configured base URLs: lower-cased,
a `file:/` target, or a URL with a scheme and a host, fragment or rootless part.
-/

namespace SwapArchive

/-- The parts of a URL. -/
structure Url where
  scheme : String := ""
  rootless : String := ""
  user : Option String := none
  host : String := ""
  path : String := ""
  rawQuery : String := ""
  fragment : String := ""
  /-- Was an authority (`//` and a host) given, even an empty one? -/
  hasAuthority : Bool := false
  deriving Inhabited, DecidableEq, Repr

namespace Url

/-- What a part of a URL may hold unescaped. -/
inductive Part where
  | host
  | zone
  | path
  | userInfo
  | fragment
  deriving DecidableEq, Repr

/-- Is the character an ASCII letter or digit? -/
def isAlnum (c : Char) : Bool := c.isAlphanum

/-- Is the character a hex digit? -/
def isHex (c : Char) : Bool := c.isDigit || ('a' ≤ c && c ≤ 'f') || ('A' ≤ c && c ≤ 'F')

/-- The value of a hex digit. -/
def hexValue (c : Char) : Nat :=
  if c.isDigit then c.toNat - 48 else if 'a' ≤ c && c ≤ 'f' then c.toNat - 87 else c.toNat - 55

/-- Must the ASCII character be escaped in this part? -/
def mustEscape (c : Char) (p : Part) : Bool :=
  if isAlnum c then false
  else if (p = .host ∨ p = .zone) ∧
      c ∈ ['!', '$', '&', '\'', '(', ')', '*', '+', ',', ';', '=', ':', '[', ']', '<', '>', '"'] then false
  else if c ∈ ['-', '_', '.', '~'] then false
  else if c ∈ ['$', '&', '+', ',', '/', ':', ';', '=', '?', '@'] then
    match p with
    | .path => c = '?'
    | .userInfo => c = '@' ∨ c = '/' ∨ c = '?' ∨ c = ':'
    | .fragment => false
    | _ => true
  else if p = .fragment ∧ c ∈ ['!', '(', ')', '*'] then false
  else true

/-- The first `n` bytes of a text between double quotes (`Bytes.quote`). -/
def quoteCut (n : Nat) (cs : List Char) : String := Bytes.quote ((Bytes.ofString (String.ofList cs)).take n)

/-- Why the text cannot be unescaped for this part, if it cannot: a `%` not followed by two hex
digits (the message shows the three bytes from the `%` on); in a host, a `%` escaping a byte below
`0x80` other than `%25`; in a zone, one escaping a byte a host cannot hold, other than `%25` and a
space; or an ASCII character a host cannot hold. -/
def escapeFault (p : Part) : List Char → Option String
  | [] => none
  | '%' :: a :: b :: rest =>
    if ¬(isHex a ∧ isHex b) then some ("invalid URL escape " ++ quoteCut 3 ('%' :: a :: b :: rest))
    else
      let v := hexValue a * 16 + hexValue b
      let pct := a = '2' ∧ b = '5'
      let bad := "invalid URL escape " ++ Quoted.quote (String.ofList ['%', a, b])
      if p = .host ∧ hexValue a < 8 ∧ ¬pct then some bad
      else if p = .zone ∧ ¬pct ∧ v ≠ 32 ∧ (v ≥ 128 ∨ mustEscape (Char.ofNat v) .host) then some bad
      else escapeFault p rest
  | '%' :: rest => some ("invalid URL escape " ++ quoteCut 3 ('%' :: rest))
  | c :: rest =>
    if (p = .host ∨ p = .zone) ∧ c.toNat < 128 ∧ mustEscape c p then
      some ("invalid character " ++ Quoted.quote c.toString ++ " in host name")
    else escapeFault p rest

/-- Can the text be unescaped for this part? -/
def unescapes (p : Part) (cs : List Char) : Bool := (escapeFault p cs).isNone

/-- Fails with the reason the text cannot be unescaped for this part, if it cannot. -/
def checkEscapes (p : Part) (cs : List Char) : Except String Unit :=
  match escapeFault p cs with
  | some m => .error m
  | none => .ok ()

/-- The bytes a path stands for: `%XX` is the byte `XX` and every other character is its UTF-8
bytes; a `%` not followed by two hex digits leaves the path unreadable. -/
def pathBytes? : List Char → Option (List UInt8)
  | [] => some []
  | '%' :: a :: b :: rest =>
    if isHex a ∧ isHex b then ((hexValue a * 16 + hexValue b).toUInt8 :: ·) <$> pathBytes? rest
    else none
  | '%' :: _ => none
  | c :: rest => (Bytes.ofString (String.singleton c) ++ ·) <$> pathBytes? rest

/-- Is the text empty or `:` followed by digits only? -/
def validPort : List Char → Bool
  | [] => true
  | ':' :: rest => rest.all Char.isDigit
  | _ => false

/-- The index of the last occurrence of a character. -/
def lastIndex (cs : List Char) (c : Char) : Option Nat :=
  (List.range cs.length).reverse.find? fun i => cs[i]? = some c

/-- The index of the first occurrence of a text. -/
def indexOf (cs : List Char) (t : List Char) : Option Nat :=
  (List.range (cs.length + 1)).find? fun i => (cs.drop i).take t.length = t

/-- Reads a host, with its port. A host with a `[` is an IP literal, and must start with it: up to
the last `]` it holds an IPv6 address, with a zone after `%25`, and after that an optional port. A
`]` alone is an ordinary host character. -/
def parseHost (cs : List Char) : Except String String := do
  let badPort := fun (p : List Char) => "invalid port " ++ Quoted.quote (String.ofList p) ++ " after host"
  match lastIndex cs '[' with
  | some o =>
    if o ≠ 0 then throw "invalid IP-literal"
    match lastIndex cs ']' with
    | none => throw "missing ']' in host"
    | some i =>
      let colonPort := cs.drop (i + 1)
      if ¬validPort colonPort then throw (badPort colonPort)
      let name := (cs.take i).drop 1
      match indexOf name "%25".toList with
      | some z =>
        checkEscapes .host (name.take z)
        checkEscapes .zone (name.drop z)
      | none => checkEscapes .host name
      match IpAddress.read ((pathBytes? name).getD []) with
      | .error e => throw ("invalid host: " ++ e.message)
      | .ok .v4 => throw "invalid IP-literal"
      | .ok .v6 => pure (String.ofList cs)
  | none =>
    match lastIndex cs ':' with
    | some i => if ¬validPort (cs.drop i) then throw (badPort (cs.drop i))
    | none => pure ()
    checkEscapes .host cs
    pure (String.ofList cs)

/-- Can the character appear in user information? -/
def userInfoChar (c : Char) : Bool :=
  isAlnum c || c ∈ ['-', '.', '_', ':', '~', '!', '$', '&', '\'', '(', ')', '*', '+', ',', ';', '=', '%', '@']

/-- Reads an authority: optional user information before the last `@`, then the host. -/
def parseAuthority (cs : List Char) : Except String (Option String × String) := do
  match lastIndex cs '@' with
  | none => pure (none, ← parseHost cs)
  | some i =>
    let host ← parseHost (cs.drop (i + 1))
    let info := cs.take i
    if ¬info.all userInfoChar then throw "net/url: invalid userinfo"
    checkEscapes .userInfo (info.takeWhile (· ≠ ':'))
    checkEscapes .userInfo ((info.dropWhile (· ≠ ':')).drop 1)
    pure (some (String.ofList info), host)

/-- Splits off a scheme: letters first, then letters, digits, `+`, `-` or `.`, up to `:`. -/
def splitScheme (cs : List Char) : Except String (String × List Char) :=
  let isLetter := fun (c : Char) => ('a' ≤ c ∧ c ≤ 'z') ∨ ('A' ≤ c ∧ c ≤ 'Z')
  let rec go (i : Nat) : List Char → Except String (String × List Char)
    | [] => .ok ("", cs)
    | c :: rest =>
      if isLetter c then go (i + 1) rest
      else if c.isDigit ∨ c = '+' ∨ c = '-' ∨ c = '.' then
        if i = 0 then .ok ("", cs) else go (i + 1) rest
      else if c = ':' then
        if i = 0 then .error "missing protocol scheme" else .ok (String.ofList (cs.take i), rest)
      else .ok ("", cs)
  go 0 cs

/-- Is there a control character? -/
def hasControl (cs : List Char) : Bool := cs.any fun c => c.toNat < 32 ∨ c.toNat = 127

/-- Reads a URL without its fragment; `request` reads it as a request target. -/
def parseBody (request : Bool) (cs : List Char) : Except String Url := do
  if hasControl cs then throw "net/url: invalid control character in URL"
  if request ∧ cs = [] then throw "empty url"
  if cs = ['*'] then return { path := "*" }
  let (scheme, rest) ← splitScheme cs
  let scheme := scheme.toLower
  let (rest, query) : List Char × String :=
    if rest.getLast? = some '?' ∧ rest.count '?' = 1 then (rest.dropLast, "")
    else (rest.takeWhile (· ≠ '?'), String.ofList ((rest.dropWhile (· ≠ '?')).drop 1))
  if rest.head? ≠ some '/' then
    if scheme ≠ "" then return { scheme := scheme, rootless := String.ofList rest, rawQuery := query }
    if request then throw "invalid URI for request"
    if (rest.takeWhile (· ≠ '/')).contains ':' then
      throw "first path segment in URL cannot contain colon"
  let hasAuthority := (scheme != "" || !request && rest.take 3 != "///".toList) &&
    rest.take 2 == "//".toList
  let (user, host, rest) ← if hasAuthority then do
      let auth := (rest.drop 2).takeWhile (· ≠ '/')
      let (user, host) ← parseAuthority auth
      pure (user, host, (rest.drop 2).dropWhile (· ≠ '/'))
    else pure (none, "", rest)
  checkEscapes .path rest
  pure { scheme := scheme, user := user, host := host, path := String.ofList rest, rawQuery := query
         hasAuthority := hasAuthority }

/-- Reads a URL, with an optional `#fragment`. -/
def parse (s : String) : Except String Url := do
  let cs := s.toList
  let body := cs.takeWhile (· ≠ '#')
  let frag := (cs.dropWhile (· ≠ '#')).drop 1
  let u ← parseBody false body
  if frag = [] then return u
  checkEscapes .fragment frag
  pure { u with fragment := String.ofList frag }

/-- Reads a URL as a request target. -/
def parseRequest (s : String) : Except String Url := parseBody true s.toList

/-- An upper-case hex digit. -/
def hexDigit (n : Nat) : Char := if n < 10 then Char.ofNat (48 + n) else Char.ofNat (55 + n)

/-- A part written from its bytes: an ASCII character the part may hold stays, every other byte
is written `%XX`. -/
def escapeBytes (p : Part) (bs : List UInt8) : String :=
  String.join (bs.map fun b =>
    let c := Char.ofNat b.toNat
    if b < 0x80 ∧ ¬mustEscape c p then c.toString
    else String.ofList ['%', hexDigit (b.toNat / 16), hexDigit (b.toNat % 16)])

/-- A path written from its bytes. -/
def escapePath (bs : List UInt8) : String := escapeBytes .path bs

/-- The bytes an escaped text stands for, the text's own bytes where an escape is broken. -/
def unescapedBytes (s : String) : List UInt8 := (pathBytes? s.toList).getD (Bytes.ofString s)

/-- The text of a URL before its path, written back from its parts: the scheme, then, when an
authority was given, `//`, the user information (name, and password after `:` when one was
given, each escaped) with `@`, and the host, escaped. A URL without a scheme has none of it. -/
def origin (u : Url) : String :=
  if u.scheme = "" then ""
  else
    let user := match u.user with
      | none => ""
      | some info =>
        let cs := info.toList
        let part := fun (xs : List Char) => escapeBytes .userInfo (unescapedBytes (String.ofList xs))
        let pass := if cs.contains ':' then ":" ++ part ((cs.dropWhile (· ≠ ':')).drop 1) else ""
        part (cs.takeWhile (· ≠ ':')) ++ pass ++ "@"
    let slashes := if u.host ≠ "" ∨ u.path ≠ "" ∨ u.user.isSome then "//" else ""
    u.scheme ++ ":" ++
      (if u.hasAuthority then slashes ++ user ++ escapeBytes .host (unescapedBytes u.host) else "")

/-- Is the text an absolute URL, as base URLs must be? -/
def isAbsolute (s : String) : Bool :=
  let s := Case.lowerText s
  if s = "" then false
  else if s.startsWith "file:/" ∧ (parseRequest s).toBool then true
  else match parse s with
    | .ok u => u.scheme ≠ "" ∧ (u.host ≠ "" ∨ u.fragment ≠ "" ∨ u.rootless ≠ "")
    | .error _ => false

end Url

end SwapArchive
