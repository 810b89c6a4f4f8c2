import SwapArchive.Json.Value

/-!
# Reading JSON text

The grammar of RFC 8259: blanks are space, tab, line feed and carriage return; a number is
`-?(0|[1-9][0-9]*)(\.[0-9]+)?([eE][+-]?[0-9]+)?` and is kept as its literal text; a string may not
hold a character below U+0020, and knows the escapes `\" \\ \/ \b \f \n \r \t \uXXXX`. A pair of
`\u` escapes that forms a UTF-16 surrogate pair stands for one character; a surrogate that is not
part of such a pair stands for U+FFFD.

`Json.readPrefix` reads one value after optional blanks and returns the text after it, which a
stream reader leaves unread; `Json.parse` also asks that only blanks follow.
-/

namespace SwapArchive

namespace Json

namespace ReadAux

/-- Is the character a JSON blank? -/
def isBlank (c : Char) : Bool := c = ' ' || c = '\t' || c = '\n' || c = '\r'

/-- Drops leading blanks. -/
def skipBlank : List Char → List Char
  | [] => []
  | c :: rest => if isBlank c then skipBlank rest else c :: rest

/-- The value of a hex digit. -/
def hexValue (c : Char) : Option Nat :=
  if '0' ≤ c ∧ c ≤ '9' then some (c.toNat - 48)
  else if 'a' ≤ c ∧ c ≤ 'f' then some (c.toNat - 87)
  else if 'A' ≤ c ∧ c ≤ 'F' then some (c.toNat - 55)
  else none

/-- Four hex digits as a number, with the rest of the text. -/
def hex4 : List Char → Option (Nat × List Char)
  | a :: b :: c :: d :: rest =>
    match hexValue a, hexValue b, hexValue c, hexValue d with
    | some x, some y, some z, some w => some (((x * 16 + y) * 16 + z) * 16 + w, rest)
    | _, _, _, _ => none
  | _ => none

theorem hex4_length {cs r : List Char} {u : Nat} (h : hex4 cs = some (u, r)) :
    r.length + 4 = cs.length := by
  unfold hex4 at h
  split at h
  · split at h
    · cases h; simp
    · cases h
  · cases h

/-- A `\uXXXX` escape right at the start of the text. -/
def unicodeEscapeAt : List Char → Option (Nat × List Char)
  | '\\' :: 'u' :: rest => hex4 rest
  | _ => none

theorem unicodeEscapeAt_length {cs r : List Char} {u : Nat} (h : unicodeEscapeAt cs = some (u, r)) :
    r.length + 6 = cs.length := by
  unfold unicodeEscapeAt at h
  split at h
  · have := hex4_length h
    simp
    omega
  · cases h

/-- The character of a `\u` escape whose four digits gave `u`, reading a low surrogate from `rest`
when `u` is a high one; an unpaired surrogate gives U+FFFD. -/
def escapedChar (u : Nat) (rest : List Char) : Char × List Char :=
  if 0xD800 ≤ u ∧ u < 0xDC00 then
    match unicodeEscapeAt rest with
    | some (lo, rest') =>
      if 0xDC00 ≤ lo ∧ lo < 0xE000 then
        (Char.ofNat (0x10000 + (u - 0xD800) * 0x400 + (lo - 0xDC00)), rest')
      else (Char.ofNat 0xFFFD, rest)
    | none => (Char.ofNat 0xFFFD, rest)
  else if 0xDC00 ≤ u ∧ u < 0xE000 then (Char.ofNat 0xFFFD, rest)
  else (Char.ofNat u, rest)

theorem escapedChar_length_le (u : Nat) (rest : List Char) :
    (escapedChar u rest).2.length ≤ rest.length := by
  unfold escapedChar
  split
  · split
    · rename_i lo rest' h
      split
      · have := unicodeEscapeAt_length h
        simp
        omega
      · simp
    · simp
  · split <;> simp

/-- The body of a string after its opening quote: the characters up to the closing quote, and the
text after it. -/
def stringBody (acc : String) : List Char → Except String (String × List Char)
  | [] => .error "unexpected end of JSON input"
  | '"' :: rest => .ok (acc, rest)
  | '\\' :: c :: rest =>
    if c = '"' then stringBody (acc.push '"') rest
    else if c = '\\' then stringBody (acc.push '\\') rest
    else if c = '/' then stringBody (acc.push '/') rest
    else if c = 'b' then stringBody (acc.push (Char.ofNat 8)) rest
    else if c = 'f' then stringBody (acc.push (Char.ofNat 12)) rest
    else if c = 'n' then stringBody (acc.push '\n') rest
    else if c = 'r' then stringBody (acc.push '\r') rest
    else if c = 't' then stringBody (acc.push '\t') rest
    else if c = 'u' then
      match h : hex4 rest with
      | some (u, rest') =>
        have h1 : rest'.length + 4 = rest.length := hex4_length h
        match h2 : escapedChar u rest' with
        | (ch, rest'') =>
          have h3 : rest''.length ≤ rest'.length := by
            have := escapedChar_length_le u rest'
            rw [h2] at this
            exact this
          stringBody (acc.push ch) rest''
      | none => .error "invalid unicode escape"
    else .error "invalid escape in string literal"
  | c :: rest =>
    if c.toNat < 32 then .error "invalid character in string literal"
    else stringBody (acc.push c) rest
termination_by cs => cs.length

/-- Is the character an ASCII digit? -/
def isDigit (c : Char) : Bool := '0' ≤ c ∧ c ≤ '9'

/-- The digits at the start of the text and the rest. -/
def digits (cs : List Char) : List Char × List Char := (cs.takeWhile isDigit, cs.dropWhile isDigit)

/-- The integer part of a number: `0` or a digit string without a leading zero. -/
def integerPart : List Char → Option (List Char × List Char)
  | '0' :: rest => some (['0'], rest)
  | c :: rest =>
    if isDigit c then
      let (ds, rest') := digits rest
      some (c :: ds, rest')
    else none
  | [] => none

/-- An optional fraction `.digits`. -/
def fractionPart : List Char → Option (List Char × List Char)
  | '.' :: rest =>
    let (ds, rest') := digits rest
    if ds.isEmpty then none else some ('.' :: ds, rest')
  | cs => some ([], cs)

/-- An optional exponent `e[+-]digits`. -/
def exponentPart : List Char → Option (List Char × List Char)
  | e :: rest =>
    if e = 'e' || e = 'E' then
      let (sign, rest1) := match rest with
        | '+' :: r => (['+'], r)
        | '-' :: r => (['-'], r)
        | r => ([], r)
      let (ds, rest2) := digits rest1
      if ds.isEmpty then none else some (e :: sign ++ ds, rest2)
    else some ([], e :: rest)
  | [] => some ([], [])

/-- A number literal at the start of the text. -/
def number (cs : List Char) : Option (String × List Char) := do
  let (sign, rest) := match cs with
    | '-' :: r => (['-'], r)
    | r => ([], r)
  let (int, rest) ← integerPart rest
  let (frac, rest) ← fractionPart rest
  let (exp, rest) ← exponentPart rest
  pure (String.ofList (sign ++ int ++ frac ++ exp), rest)

/-- A literal word such as `true` at the start of the text. -/
def word (w : List Char) (cs : List Char) : Option (List Char) :=
  if w.isPrefixOf cs then some (cs.drop w.length) else none

mutual

/-- One value at the start of the text (blanks before it skipped); `fuel` bounds the nesting. -/
def value (fuel : Nat) (cs : List Char) : Except String (Json × List Char) :=
  match fuel with
  | 0 => .error "exceeded max depth"
  | fuel + 1 =>
    match skipBlank cs with
    | [] => .error "unexpected end of JSON input"
    | '{' :: rest => members fuel [] rest true
    | '[' :: rest => items fuel [] rest true
    | '"' :: rest => do
      let (s, rest') ← stringBody "" rest
      pure (.str s, rest')
    | c :: rest =>
      if c = 't' then
        match word ['r', 'u', 'e'] rest with
        | some r => .ok (.bool true, r)
        | none => .error "invalid character in literal true"
      else if c = 'f' then
        match word ['a', 'l', 's', 'e'] rest with
        | some r => .ok (.bool false, r)
        | none => .error "invalid character in literal false"
      else if c = 'n' then
        match word ['u', 'l', 'l'] rest with
        | some r => .ok (.null, r)
        | none => .error "invalid character in literal null"
      else
        match number (c :: rest) with
        | some (lit, r) => .ok (.num lit, r)
        | none => .error "invalid character looking for beginning of value"

/-- Array items after `[`; `first` tells whether no item was read yet. -/
def items (fuel : Nat) (acc : List Json) (cs : List Char) (first : Bool) :
    Except String (Json × List Char) :=
  match fuel with
  | 0 => .error "exceeded max depth"
  | fuel + 1 =>
    match skipBlank cs, first with
    | ']' :: rest, true => .ok (.arr acc.reverse, rest)
    | cs', _ => do
      let (v, rest) ← value fuel cs'
      match skipBlank rest with
      | ',' :: rest' => items fuel (v :: acc) rest' false
      | ']' :: rest' => .ok (.arr (v :: acc).reverse, rest')
      | [] => .error "unexpected end of JSON input"
      | _ => .error "invalid character after array element"

/-- Object members after `{`; `first` tells whether no member was read yet. -/
def members (fuel : Nat) (acc : List (String × Json)) (cs : List Char) (first : Bool) :
    Except String (Json × List Char) :=
  match fuel with
  | 0 => .error "exceeded max depth"
  | fuel + 1 =>
    match skipBlank cs, first with
    | '}' :: rest, true => .ok (.obj acc.reverse, rest)
    | '"' :: rest, _ => do
      let (k, rest) ← stringBody "" rest
      match skipBlank rest with
      | ':' :: rest' => do
        let (v, rest'') ← value fuel rest'
        match skipBlank rest'' with
        | ',' :: r => members fuel ((k, v) :: acc) r false
        | '}' :: r => .ok (.obj ((k, v) :: acc).reverse, r)
        | [] => .error "unexpected end of JSON input"
        | _ => .error "invalid character after object key:value pair"
      | [] => .error "unexpected end of JSON input"
      | _ => .error "invalid character after object key"
    | [], _ => .error "unexpected end of JSON input"
    | _, _ => .error "invalid character looking for beginning of object key string"

end

end ReadAux

open ReadAux

/-- Reads one value after optional blanks and returns the unread text after it. -/
def readPrefix (s : String) : Except String (Json × List Char) :=
  let cs := s.toList
  value (2 * cs.length + 2) cs

/-- Reads a text that holds exactly one value, blanks around it allowed. -/
def parse (s : String) : Except String Json := do
  let (v, rest) ← readPrefix s
  match skipBlank rest with
  | [] => pure v
  | _ => .error "invalid character after top-level value"

end Json

end SwapArchive
