import SwapArchive.Text.CharClass
import SwapArchive.Text.Bytes

/-!
# Trimming and cleaning text

`Clean.trim` drops white space (in the Unicode sense of `CharClass.isSpace`) at both ends.
`Clean.sanitize` keeps ASCII characters, letters and decimal digits of any script and drops every
other character: marks, symbols, emoji, non-ASCII spaces and format characters such as U+200B.
`Clean.sanitizeBytes` does the same to a string of bytes that need not be UTF-8, reading it the
lenient way (`Bytes.chars`): a byte that starts no well-formed sequence reads as U+FFFD, a symbol,
and is dropped with the rest. When it keeps every character it gives the bytes back untouched.
-/

namespace SwapArchive

namespace Clean

/-- Drops leading white space. -/
def dropSpace : List Char → List Char
  | [] => []
  | c :: rest => if CharClass.isSpace c then dropSpace rest else c :: rest

/-- The text without white space at either end. -/
def trim (s : String) : String :=
  String.ofList (dropSpace (dropSpace s.toList).reverse).reverse

/-- Does a stored text keep this character? ASCII, letters and decimal digits stay. -/
def keeps (c : Char) : Bool :=
  c.toNat < 0x80 || CharClass.isLetter c || CharClass.isDecimalDigit c

/-- The text with only the characters that `keeps` accepts. -/
def sanitize (s : String) : String := String.ofList (s.toList.filter keeps)

/-- The bytes with only the characters `keeps` accepts, read leniently and written in UTF-8; the
bytes themselves when every character is kept. -/
def sanitizeBytes (bs : List UInt8) : List UInt8 :=
  let cs := Bytes.chars bs.length bs
  if cs.all keeps then bs else Bytes.ofString (String.ofList (cs.filter keeps))

theorem sanitize_idem (s : String) : sanitize (sanitize s) = sanitize s := by
  simp [sanitize, List.filter_filter]

end Clean

end SwapArchive
