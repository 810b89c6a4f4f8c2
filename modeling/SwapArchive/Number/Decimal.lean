import SwapArchive.Number.Nearest

/-!
# Exact decimal numbers

A `Decimal` is `coeff · 10^exp`, with a coefficient of any size and an exponent in the 32-bit
signed range, as amounts arrive in the feeds. `Decimal.parse` reads an optional sign, digits with
at most one `.` (each digit after it lowers the exponent) and an optional exponent part from the
first `e` or `E`, a 32-bit signed integer; it fails with `can't convert <text> to decimal`, and
`: too many .s`, `: exponent is not numeric` or `: fractional part too long` where they apply.
`Decimal.toString` writes the exact value in positional notation, without trailing zeros in the
fraction, without a point when there is no fraction, and zero without a sign.
-/

namespace SwapArchive

/-- An exact decimal number `coeff · 10^exp`. -/
structure Decimal where
  coeff : Int
  exp : Int
  deriving DecidableEq, Repr

namespace Decimal

/-- The 32-bit two's complement value of an integer: arithmetic on the exponent wraps. -/
def wrap32 (x : Int) : Int := (x + Int.pow 2 31) % Int.pow 2 32 - Int.pow 2 31

/-- Is the integer in the 32-bit signed range? -/
def fits32 (x : Int) : Bool := -Int.pow 2 31 ≤ x ∧ x < Int.pow 2 31

/-- Reads an optional sign and one or more ASCII digits; no other character. -/
def readSignedDigits (cs : List Char) : Option Int :=
  let (neg, body) : Bool × List Char := match cs with
    | '+' :: rest => (false, rest)
    | '-' :: rest => (true, rest)
    | cs => (false, cs)
  if body.isEmpty || !body.all (fun c => '0' ≤ c ∧ c ≤ '9') then none
  else
    let n : Nat := body.foldl (fun acc c => acc * 10 + (c.toNat - 48)) 0
    some (if neg then -(n : Int) else (n : Int))

/-- Why a text is not a decimal number. -/
inductive ParseFailure where
  /-- The digits (after the exponent part is cut off) do not form a number. -/
  | notANumber (shown : String)
  /-- More than one decimal point. -/
  | tooManyPoints (shown : String)
  /-- The exponent part is not an integer. -/
  | badExponent (shown : String)
  /-- The exponent falls outside the 32-bit range. -/
  | exponentRange (shown : String)
  deriving DecidableEq, Repr

/-- The message of a failed reading. -/
def ParseFailure.message : ParseFailure → String
  | .notANumber s => "can't convert " ++ s ++ " to decimal"
  | .tooManyPoints s => "can't convert " ++ s ++ " to decimal: too many .s"
  | .badExponent s => "can't convert " ++ s ++ " to decimal: exponent is not numeric"
  | .exponentRange s => "can't convert " ++ s ++ " to decimal: fractional part too long"

/-- The exponent part after `e`: a 32-bit signed integer, or the failure it causes. -/
def readExponent (whole : String) (cs : List Char) : Except ParseFailure Int :=
  let (neg, body) : Bool × List Char := match cs with
    | '+' :: rest => (false, rest)
    | '-' :: rest => (true, rest)
    | cs => (false, cs)
  let step := fun (acc : Except ParseFailure Nat) (c : Char) =>
    match acc with
    | .error e => .error e
    | .ok n =>
      if '0' ≤ c ∧ c ≤ '9' then
        let n' := n * 10 + (c.toNat - 48)
        if n' > Nat.pow 2 32 - 1 then .error (.exponentRange whole) else .ok n'
      else .error (.badExponent whole)
  if body.isEmpty then .error (.badExponent whole)
  else
    match body.foldl step (.ok 0) with
    | .error e => .error e
    | .ok n =>
      if neg then (if n > Nat.pow 2 31 then .error (.exponentRange whole) else .ok (-(n : Int)))
      else (if n ≥ Nat.pow 2 31 then .error (.exponentRange whole) else .ok n)

/-- Reads a decimal number as the module doc says. -/
def parse (s : String) : Except ParseFailure Decimal := do
  let cs := s.toList
  let (mant, exp) ← match cs.findIdx? (fun c => c = 'e' || c = 'E') with
    | some i => do
      let e ← readExponent s (cs.drop (i + 1))
      pure (cs.take i, e)
    | none => pure (cs, 0)
  let shown := String.ofList mant
  if mant.count '.' > 1 then throw (.tooManyPoints shown)
  let (digits, exp) : List Char × Int := match mant.findIdx? (· = '.') with
    | some i => (mant.take i ++ mant.drop (i + 1), exp - (mant.length - (i + 1) : Nat))
    | none => (mant, exp)
  match readSignedDigits digits with
  | none => throw (.notANumber shown)
  | some v =>
    if fits32 exp then pure ⟨v, exp⟩ else throw (.exponentRange s)

/-- Moves the decimal point: `shift d n` is `d · 10^n`, the exponent wrapping in 32 bits. -/
def shift (d : Decimal) (n : Int) : Decimal := ⟨d.coeff, wrap32 (d.exp + n)⟩

/-- The exact product. -/
def mul (a b : Decimal) : Decimal := ⟨a.coeff * b.coeff, a.exp + b.exp⟩

/-- Zero. -/
def zero : Decimal := ⟨0, 0⟩

/-- `n` zeros. -/
def zeros (n : Nat) : String := String.ofList (List.replicate n '0')

/-- Drops trailing zeros of a digit list. -/
def dropTrailingZeros (ds : List Char) : List Char :=
  (ds.reverse.dropWhile (· = '0')).reverse

/-- The exact value in positional notation, as the module doc says. -/
protected def toString (d : Decimal) : String :=
  if d.exp ≥ 0 then toString (d.coeff * Int.pow 10 d.exp.toNat)
  else
    let str := (toString d.coeff.natAbs).toList
    let k := (-d.exp).toNat
    let (intPart, frac) : List Char × List Char :=
      if str.length > k then (str.take (str.length - k), str.drop (str.length - k))
      else (['0'], List.replicate (k - str.length) '0' ++ str)
    let frac := dropTrailingZeros frac
    let number := String.ofList intPart ++ (if frac.isEmpty then "" else "." ++ String.ofList frac)
    if d.coeff < 0 then "-" ++ number else number

instance : ToString Decimal := ⟨Decimal.toString⟩

/-- The double nearest to the exact value. -/
def toFloat (d : Decimal) : Float :=
  Binary64.ofScientific (d.coeff < 0) d.coeff.natAbs d.exp

end Decimal

end SwapArchive
