/-!
# Escaping parts of a URL

A part of a URL keeps some characters and writes every other byte of its UTF-8 form as `%XX`, in
upper-case hex. `Escape.queryPart` keeps letters, digits and `-_.~` and writes a blank as `+`;
`Escape.segment` keeps letters, digits, `-_.~` and `$&+:=@`. `Escape.query` writes `key=value`
pairs joined by `&`, stably sorted by key. `Escape.unquery` reads a key or value back (`+` a
blank, `%XX` a byte), keeping a text with a bad escape or bytes that are not UTF-8 as it is.
-/

namespace SwapArchive

namespace Escape

/-- Letters, digits and `-_.~`: the characters no part of a URL escapes. -/
def unreserved (c : Char) : Bool :=
  ('a' ≤ c ∧ c ≤ 'z') ∨ ('A' ≤ c ∧ c ≤ 'Z') ∨ ('0' ≤ c ∧ c ≤ '9') ∨ c = '-' ∨ c = '_' ∨ c = '.' ∨ c = '~'

/-- An upper-case hex digit. -/
def hexDigit (n : Nat) : Char :=
  if n < 10 then Char.ofNat (48 + n) else Char.ofNat (55 + n)

/-- A byte as `%XX`. -/
def percent (b : UInt8) : String :=
  String.ofList ['%', hexDigit (b.toNat / 16), hexDigit (b.toNat % 16)]

/-- A character as it stays, or its bytes escaped. -/
def escapeChar (keep : Char → Bool) (c : Char) : String :=
  if keep c then c.toString else String.join ((String.singleton c).toUTF8.toList.map percent)

/-- A key or value of a query. -/
def queryPart (s : String) : String :=
  String.join (s.toList.map fun c => if c = ' ' then "+" else escapeChar unreserved c)

/-- One path segment. -/
def segment (s : String) : String :=
  String.join (s.toList.map (escapeChar fun c => unreserved c ∨ c ∈ ['$', '&', '+', ':', '=', '@']))

/-- A query from its pairs, sorted by key. -/
def query (pairs : List (String × String)) : String :=
  "&".intercalate (((pairs.mergeSort fun a b => decide (a.1 ≤ b.1))).map fun p =>
    queryPart p.1 ++ "=" ++ queryPart p.2)

/-- The value of a hex digit. -/
def hexValue? (c : Char) : Option Nat :=
  if '0' ≤ c ∧ c ≤ '9' then some (c.toNat - 48)
  else if 'a' ≤ c ∧ c ≤ 'f' then some (c.toNat - 87)
  else if 'A' ≤ c ∧ c ≤ 'F' then some (c.toNat - 55)
  else none

/-- The bytes of an escaped key or value, if every escape is good. -/
def unqueryBytes : List Char → Option (List UInt8)
  | [] => some []
  | '+' :: rest => (32 :: ·) <$> unqueryBytes rest
  | '%' :: rest =>
    match rest with
    | a :: b :: more =>
      match hexValue? a, hexValue? b with
      | some x, some y => ((x * 16 + y).toUInt8 :: ·) <$> unqueryBytes more
      | _, _ => none
    | _ => none
  | c :: rest => ((String.singleton c).toUTF8.toList ++ ·) <$> unqueryBytes rest

/-- A key or value of a query, read back. -/
def unquery (s : String) : String :=
  match unqueryBytes s.toList with
  | some bytes => (String.fromUTF8? (ByteArray.mk bytes.toArray)).getD s
  | none => s

end Escape

end SwapArchive
