import SwapArchive.Text.Quoted
/-!
# Text as UTF-8 bytes

A decoded URL path is a list of bytes, which need not be UTF-8. `Bytes.toText` reads bytes as
text the lenient way: a well-formed UTF-8 sequence is its character, and a byte that starts none
reads as U+FFFD, one for each such byte. `Bytes.sequenceLength` is the test: the number of bytes
of the well-formed sequence at the start (the shortest form, no surrogate, at most U+10FFFF), or
zero.

`Bytes.quote` writes bytes between double quotes for a message: a well-formed sequence as
`Quoted.quote` writes its character, any other byte as `\xNN`.
-/

namespace SwapArchive

namespace Bytes

/-- The UTF-8 bytes of a text. -/
def ofString (s : String) : List UInt8 := s.toUTF8.toList

/-- Is the byte a continuation byte? -/
def isCont (b : UInt8) : Bool := 0x80 ≤ b && b < 0xC0

/-- The length of the well-formed UTF-8 sequence the bytes start with, or zero. -/
def sequenceLength : List UInt8 → Nat
  | [] => 0
  | b :: rest =>
    if b < 0x80 then 1
    else if 0xC2 ≤ b ∧ b ≤ 0xDF then
      match rest with
      | c :: _ => if isCont c then 2 else 0
      | [] => 0
    else if 0xE0 ≤ b ∧ b ≤ 0xEF then
      let lo : UInt8 := if b = 0xE0 then 0xA0 else 0x80
      let hi : UInt8 := if b = 0xED then 0x9F else 0xBF
      match rest with
      | c :: d :: _ => if lo ≤ c ∧ c ≤ hi ∧ isCont d then 3 else 0
      | _ => 0
    else if 0xF0 ≤ b ∧ b ≤ 0xF4 then
      let lo : UInt8 := if b = 0xF0 then 0x90 else 0x80
      let hi : UInt8 := if b = 0xF4 then 0x8F else 0xBF
      match rest with
      | c :: d :: e :: _ => if lo ≤ c ∧ c ≤ hi ∧ isCont d ∧ isCont e then 4 else 0
      | _ => 0
    else 0

/-- The characters of the bytes, read leniently, with `fuel` steps at most. -/
def chars : Nat → List UInt8 → List Char
  | 0, _ => []
  | _, [] => []
  | fuel + 1, b :: rest =>
    let n := sequenceLength (b :: rest)
    if n = 0 then '�' :: chars fuel rest
    else
      let one := (String.fromUTF8? (ByteArray.mk ((b :: rest).take n).toArray)).getD "�"
      one.toList ++ chars fuel ((b :: rest).drop n)

/-- The bytes as text, read leniently. -/
def toText (bs : List UInt8) : String := String.ofList (chars bs.length bs)

/-- The spellings of the bytes inside quotes, with `fuel` steps at most. -/
def quotedParts : Nat → List UInt8 → List String
  | 0, _ => []
  | _, [] => []
  | fuel + 1, b :: rest =>
    let n := sequenceLength (b :: rest)
    if n = 0 then ("\\x" ++ Quoted.hex 2 b.toNat) :: quotedParts fuel rest
    else ((chars n ((b :: rest).take n)).map Quoted.escapeChar) ++ quotedParts fuel ((b :: rest).drop n)

/-- The bytes between double quotes, for a message. -/
def quote (bs : List UInt8) : String := "\"" ++ String.join (quotedParts bs.length bs) ++ "\""

end Bytes

end SwapArchive
