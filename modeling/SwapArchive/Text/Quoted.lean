import SwapArchive.Text.CharClass

/-!
# Quoted text in messages

Error messages show user text between double quotes. `Quoted.quote` keeps printable characters,
puts a backslash before the quote and the backslash, uses the letter escapes (`\a \b \f \n \r \t
\v`), writes other characters below U+0020 and U+007F as `\xNN` and any other non-printable one
as `\uNNNN`, or `\UNNNNNNNN` above U+FFFF, in lower-case hex. `Quoted.quoteBytes`, the spelling of
time-parsing messages, writes every character outside U+0020..U+007F byte by byte of its UTF-8
form as `\xNN`, with a backslash before the quote and the backslash.
-/

namespace SwapArchive

namespace Quoted

/-- The lower-case hex digit of a number below 16. -/
def hexDigit (n : Nat) : Char :=
  if n < 10 then Char.ofNat (48 + n) else Char.ofNat (87 + n)

/-- `n` as exactly `width` lower-case hex digits. -/
def hex (width n : Nat) : String :=
  String.ofList ((List.range width).reverse.map fun i => hexDigit (n / Nat.pow 16 i % 16))

/-- The spelling of one character inside a quoted message text. -/
def escapeChar (c : Char) : String :=
  let n := c.toNat
  if c = '"' then "\\\""
  else if c = '\\' then "\\\\"
  else if CharClass.isPrintable c then String.singleton c
  else if n = 7 then "\\a"
  else if n = 8 then "\\b"
  else if n = 12 then "\\f"
  else if n = 10 then "\\n"
  else if n = 13 then "\\r"
  else if n = 9 then "\\t"
  else if n = 11 then "\\v"
  else if n < 0x20 ∨ n = 0x7F then "\\x" ++ hex 2 n
  else if n < 0x10000 then "\\u" ++ hex 4 n
  else "\\U" ++ hex 8 n

/-- A text between double quotes, escaped as the module doc says. -/
def quote (s : String) : String :=
  s.toList.foldl (fun acc c => acc ++ escapeChar c) "\"" ++ "\""

/-- The spelling of one character in the byte-wise quoting of time messages. -/
def escapeCharBytes (c : Char) : String :=
  if c.toNat ≥ 0x80 ∨ c.toNat < 0x20 then
    (String.utf8EncodeChar c).foldl (fun acc b => acc ++ "\\x" ++ hex 2 b.toNat) ""
  else if c = '"' ∨ c = '\\' then "\\" ++ String.singleton c
  else String.singleton c

/-- A text between double quotes, each byte of a character outside ASCII's printable range
written `\xNN`. -/
def quoteBytes (s : String) : String :=
  s.toList.foldl (fun acc c => acc ++ escapeCharBytes c) "\"" ++ "\""

end Quoted

end SwapArchive
