import SwapArchive.Json.Value

/-!
# Writing JSON text

Compact JSON text: no blanks between tokens, members in the order the value holds them. A string
is quoted; the quote and the backslash get a backslash, the control characters with a short
escape use it, other characters below U+0020 are `\u00XX` in lower-case hex, and U+2028 and
U+2029 are always escaped. With `html` set, `<`, `>` and `&` are written `\u003c`, `\u003e`
and `\u0026`, so the text can sit inside an HTML page; all other characters stay as they are.
`HttpResponse` is an answer of a JSON endpoint: its status and body.
-/

namespace SwapArchive

namespace Json

/-- The lower-case hex digit of a number below 16. -/
def hexDigit (n : Nat) : Char :=
  if n < 10 then Char.ofNat (48 + n) else Char.ofNat (87 + n)

/-- `\u00XX` for a character below U+0100. -/
def unicodeEscape (n : Nat) : String :=
  "\\u00" ++ String.singleton (hexDigit (n / 16 % 16)) ++ String.singleton (hexDigit (n % 16))

/-- The text that stands for one character inside a quoted string. -/
def escapeChar (html : Bool) (c : Char) : String :=
  if c = '"' then "\\\""
  else if c = '\\' then "\\\\"
  else if c.toNat = 8 then "\\b"
  else if c.toNat = 12 then "\\f"
  else if c = '\n' then "\\n"
  else if c = '\r' then "\\r"
  else if c = '\t' then "\\t"
  else if c.toNat < 32 then unicodeEscape c.toNat
  else if html && (c = '<' || c = '>' || c = '&') then unicodeEscape c.toNat
  else if c.toNat = 0x2028 then "\\u2028"
  else if c.toNat = 0x2029 then "\\u2029"
  else String.singleton c

/-- A string between double quotes, escaped as the module doc says. -/
def quote (html : Bool) (s : String) : String :=
  s.toList.foldl (fun acc c => acc ++ escapeChar html c) "\"" ++ "\""

mutual

/-- The compact text of a value. -/
def render (html : Bool) : Json → String
  | .null => "null"
  | .bool true => "true"
  | .bool false => "false"
  | .num lit => lit
  | .str s => quote html s
  | .arr items => "[" ++ renderItems html items ++ "]"
  | .obj members => "\x7b" ++ renderMembers html members ++ "\x7d"

/-- Array items, separated by commas. -/
def renderItems (html : Bool) : List Json → String
  | [] => ""
  | [x] => render html x
  | x :: rest => render html x ++ "," ++ renderItems html rest

/-- Object members, separated by commas. -/
def renderMembers (html : Bool) : List (String × Json) → String
  | [] => ""
  | [(k, v)] => quote html k ++ ":" ++ render html v
  | (k, v) :: rest => quote html k ++ ":" ++ render html v ++ "," ++ renderMembers html rest

end

/-- The text of a value as an HTTP response body carries it: HTML characters escaped. -/
def toBody (j : Json) : String := render true j

/-- The text of a value with HTML characters left as they are. -/
def toText (j : Json) : String := render false j

end Json

/-- An HTTP answer: a status code and a JSON body. -/
structure HttpResponse where
  status : Nat
  body : Json
  deriving Inhabited

namespace HttpResponse

/-- The body's text. -/
def text (r : HttpResponse) : String := Json.toBody r.body

/-- An answer whose body is `{"error": message}`. -/
def failure (status : Nat) (message : String) : HttpResponse := ⟨status, .obj [("error", .str message)]⟩

/-- An answer whose body is `{"data": value}`. -/
def data (status : Nat) (value : Json) : HttpResponse := ⟨status, .obj [("data", value)]⟩

end HttpResponse

end SwapArchive
