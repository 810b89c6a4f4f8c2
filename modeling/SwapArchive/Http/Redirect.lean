import SwapArchive.Http.SlashPath
import SwapArchive.Http.Url

/-!
# Redirects to the other form of a path

A request whose path has no route, but would have one with a final slash dropped or added, is
redirected. `Redirect.reference` gives where to: the decoded path with its final slash toggled,
behind the `X-Forwarded-Prefix` header cleaned as a slash path, stripped to ASCII letters,
digits, `/` and `-`, its slash runs made one (a header cleaning to `.` adds nothing); escaped by
`Url.escapePath`, with the query as it came and the target's scheme and authority. A reference
without a host is made absolute against the new path's directory and cleaned, keeping a final
slash. `Redirect.location` writes it with bytes from 0x80 as lower-case `%xx`; `Redirect.body` is
the short HTML page of a `GET` answer.
-/

namespace SwapArchive

namespace Redirect

/-- Makes each run of slashes one slash. -/
def squeezeSlashes : List Char → List Char
  | '/' :: '/' :: rest => squeezeSlashes ('/' :: rest)
  | c :: rest => c :: squeezeSlashes rest
  | [] => []

/-- The prefix a forwarded-prefix header puts in front of the path, if any. -/
def prefixOf (header : String) : Option String :=
  let cleaned := SlashPath.cleanText header
  if cleaned = "." then none
  else
    let kept := cleaned.toList.filter fun c => c.isAlphanum ∨ c = '/' ∨ c = '-'
    some (String.ofList (squeezeSlashes kept))

/-- The path redirected to: the decoded path behind the prefix, with its final slash dropped or
one added. -/
def newPath (pre : Option String) (path : List UInt8) : List UInt8 :=
  let p := match pre with
    | some x => Bytes.ofString x ++ [SlashPath.slash] ++ path
    | none => path
  if p.length > 1 ∧ p.getLast? = some SlashPath.slash then p.dropLast else p ++ [SlashPath.slash]

/-- Cleans a reference without a host, up to its query, keeping a final slash; `path` is the new
path, whose directory a relative reference is read against. -/
def absolute (path ref : List UInt8) : List UInt8 :=
  let ref := if ref.head? = some SlashPath.slash then ref else SlashPath.dir path ++ ref
  let question : UInt8 := 63
  let url := ref.takeWhile (· ≠ question)
  let query := ref.dropWhile (· ≠ question)
  let cleaned := SlashPath.clean url
  let cleaned :=
    if url.getLast? = some SlashPath.slash ∧ cleaned.getLast? ≠ some SlashPath.slash then
      cleaned ++ [SlashPath.slash]
    else cleaned
  cleaned ++ query

/-- Where a request is redirected: the text of its target before the path (`Url.origin`), its
decoded path, the query text from `?` on (empty when there is none) and the forwarded-prefix
header. -/
def reference (origin : String) (path : List UInt8) (query header : String) : List UInt8 :=
  let target := newPath (prefixOf header) path
  let ref := origin ++ Url.escapePath target ++ query
  match Url.parse ref with
  | .ok u => if u.scheme = "" ∧ u.host = "" then absolute target (Bytes.ofString ref) else Bytes.ofString ref
  | .error _ => Bytes.ofString ref

/-- A lower-case hex digit. -/
def lowerHex (n : Nat) : Char := if n < 10 then Char.ofNat (48 + n) else Char.ofNat (87 + n)

/-- The `Location` header of a reference. -/
def location (ref : List UInt8) : String :=
  String.join (ref.map fun b =>
    if b < 0x80 then (Char.ofNat b.toNat).toString
    else String.ofList ['%', lowerHex (b.toNat / 16), lowerHex (b.toNat % 16)])

/-- Escapes a text for HTML. -/
def htmlEscape (s : String) : String :=
  String.join (s.toList.map fun c =>
    if c = '&' then "&amp;" else if c = '<' then "&lt;" else if c = '>' then "&gt;"
    else if c = '"' then "&#34;" else if c = '\'' then "&#39;" else c.toString)

/-- The body of a `GET` answer that redirects to a reference. -/
def body (ref : List UInt8) : String :=
  "<a href=\"" ++ htmlEscape (Bytes.toText ref) ++ "\">Moved Permanently</a>.\n\n"

end Redirect

end SwapArchive
