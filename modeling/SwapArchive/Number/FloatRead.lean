import SwapArchive.Number.Nearest
import SwapArchive.Number.IntText

/-!
# Reading a double from text

`FloatRead.parse` reads the whole of a text as a double, rounded to the nearest: `inf`,
`infinity` (any case, optional sign) and `nan`; an optional sign, decimal digits with at most one
`.`, and an optional exponent `e` or `E`; or `0x` hex digits with a binary exponent `p` that
cannot be left out. Underscores may stand between two digits (or right after the base prefix).
Anything else is a syntax failure. A magnitude rounding past the largest double is out of range,
one below the smallest is a signed zero. Exponents stop growing past ten thousand, already beyond
the range of doubles for any number of fewer than ten thousand digits.
-/

namespace SwapArchive

namespace FloatRead

/-- The text of a failure reason. -/
def failureText : NumFailure → String
  | .badSyntax => "invalid syntax"
  | .outOfRange => "value out of range"

/-- ASCII lower case. -/
def lower (c : Char) : Char := c.toLower

/-- How many leading characters of `s` spell the start of `word`, upper case counting as lower. -/
def commonPrefix : List Char → List Char → Nat
  | c :: cs, w :: ws => if lower c = w then commonPrefix cs ws + 1 else 0
  | _, _ => 0

/-- The infinities and the not-a-number, with how many characters they take. -/
def special (cs : List Char) : Option (Float × Nat) :=
  let inf := fun (neg : Bool) (rest : List Char) (used : Nat) =>
    let n := commonPrefix rest "infinity".toList
    let n := if 3 < n ∧ n < 8 then 3 else n
    if n = 3 ∨ n = 8 then some ((if neg then -1 else 1) / (0 : Float), used + n) else none
  match cs with
  | '+' :: rest => inf false rest 1
  | '-' :: rest => inf true rest 1
  | c :: _ =>
    if c = 'i' ∨ c = 'I' then inf false cs 0
    else if (c = 'n' ∨ c = 'N') ∧ commonPrefix cs "nan".toList = 3 then some ((0 : Float) / 0, 3)
    else none
  | [] => none

/-- The value of a digit in base 10 or 16. -/
def digitValue (hex : Bool) (c : Char) : Option Nat :=
  if '0' ≤ c ∧ c ≤ '9' then some (c.toNat - 48)
  else if hex ∧ 'a' ≤ lower c ∧ lower c ≤ 'f' then some ((lower c).toNat - 87)
  else none

/-- The digits read so far: their value, how many count (leading zeros do not), where the
point stands relative to them, and what was seen. -/
structure Mantissa where
  value : Nat := 0
  count : Nat := 0
  point : Int := 0
  sawDot : Bool := false
  sawDigits : Bool := false
  underscores : Bool := false

/-- Reads digits, underscores and one point; stops at the first other character. -/
def readMantissa (hex : Bool) : Mantissa → List Char → Mantissa × List Char
  | m, [] => (m, [])
  | m, c :: rest =>
    if c = '_' then readMantissa hex { m with underscores := true } rest
    else if c = '.' then
      if m.sawDot then (m, c :: rest)
      else readMantissa hex { m with sawDot := true, point := m.count } rest
    else match digitValue hex c with
      | some d =>
        if d = 0 ∧ m.count = 0 then readMantissa hex { m with sawDigits := true, point := m.point - 1 } rest
        else readMantissa hex
          { m with sawDigits := true, count := m.count + 1, value := m.value * (if hex then 16 else 10) + d } rest
      | none => (m, c :: rest)

/-- Reads exponent digits and underscores; the value stops growing once it reaches ten thousand. -/
def readExponent : Nat → Bool → List Char → Nat × Bool × List Char
  | e, u, [] => (e, u, [])
  | e, u, c :: rest =>
    if c = '_' then readExponent e true rest
    else if '0' ≤ c ∧ c ≤ '9' then
      readExponent (if e < 10000 then e * 10 + (c.toNat - 48) else e) u rest
    else (e, u, c :: rest)

/-- Are the underscores of a number text each between digits, or right after a base prefix? -/
def underscoresFit (cs : List Char) : Bool :=
  let body := match cs with
    | '+' :: rest => rest
    | '-' :: rest => rest
    | _ => cs
  let (hex, saw, rest) : Bool × Char × List Char := match body with
    | '0' :: b :: rest =>
      if lower b = 'b' ∨ lower b = 'o' ∨ lower b = 'x' then (lower b = 'x', '0', rest) else (false, '^', body)
    | _ => (false, '^', body)
  let step := fun (acc : Option Char) (c : Char) => match acc with
    | none => none
    | some saw =>
      if ('0' ≤ c ∧ c ≤ '9') ∨ (hex ∧ 'a' ≤ lower c ∧ lower c ≤ 'f') then some '0'
      else if c = '_' then (if saw = '0' then some '_' else none)
      else if saw = '_' then none
      else some '!'
  match rest.foldl step (some saw) with
  | some s => s ≠ '_'
  | none => false

/-- A number read from text: its sign, base, digits and the power that scales them (of ten, or
of two for hex), and how much text it took. -/
structure Literal where
  neg : Bool
  hex : Bool
  digits : Nat
  scale : Int

/-- Reads the number at the start of a text, with the text left after it. -/
def readLiteral (cs : List Char) : Option (Literal × List Char) :=
  let (neg, afterSign) : Bool × List Char := match cs with
    | '+' :: rest => (false, rest)
    | '-' :: rest => (true, rest)
    | _ => (false, cs)
  let (hex, body) : Bool × List Char := match afterSign with
    | '0' :: x :: r :: rest => if lower x = 'x' then (true, r :: rest) else (false, afterSign)
    | _ => (false, afterSign)
  let (m, rest) := readMantissa hex {} body
  if ¬m.sawDigits then none
  else
    let point : Int := if m.sawDot then m.point else m.count
    let unit : Int := if hex then 4 else 1
    let expChar := if hex then 'p' else 'e'
    let finish := fun (e : Int) (u : Bool) (rest : List Char) =>
      let used := cs.take (cs.length - rest.length)
      if (m.underscores ∨ u) ∧ ¬underscoresFit used then none
      else
        let scale := if m.value = 0 then 0 else point * unit + e - m.count * unit
        some (⟨neg, hex, m.value, scale⟩, rest)
    match rest with
    | c :: more =>
      if lower c = expChar then
        let (esign, digits) : Int × List Char := match more with
          | '+' :: r => (1, r)
          | '-' :: r => (-1, r)
          | r => (1, r)
        match digits with
        | d :: _ =>
          if '0' ≤ d ∧ d ≤ '9' then
            let (e, u, rest) := readExponent 0 false digits
            finish (esign * e) u rest
          else none
        | [] => none
      else if hex then none
      else finish 0 false rest
    | [] => if hex then none else finish 0 false []

/-- The double nearest to a literal. -/
def Literal.toFloat (l : Literal) : Float :=
  if l.hex then
    if l.scale ≥ 0 then Binary64.nearest l.neg (l.digits * Nat.pow 2 l.scale.toNat) 1
    else Binary64.nearest l.neg l.digits (Nat.pow 2 (-l.scale).toNat)
  else Binary64.ofScientific l.neg l.digits l.scale

/-- Reads a whole text as a double. -/
def parse (s : String) : Except NumFailure Float :=
  let cs := s.toList
  match special cs with
  | some (x, used) => if used = cs.length then .ok x else .error .badSyntax
  | none =>
    match readLiteral cs with
    | some (l, []) =>
      let x := l.toFloat
      if x.isInf then .error .outOfRange else .ok x
    | _ => .error .badSyntax

end FloatRead

end SwapArchive
