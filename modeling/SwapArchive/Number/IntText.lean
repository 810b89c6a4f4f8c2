import SwapArchive.Text.Quoted

/-!
# Integers written in decimal

`IntText.parse func bits s` reads `s` as a signed integer of `bits` bits: an optional `+` or `-`,
then one or more ASCII digits, nothing else (no blanks, no `_`, no base prefix). Characters are
read left to right and the first fault found decides the error: a character that is not a digit
is a syntax error; a magnitude that passes `2^bits - 1` while reading is out of range, even if a
bad character follows. After reading, a magnitude beyond the signed range is out of range too.

The message names the reading function and quotes the input:
`strconv.ParseInt: parsing "1.5": invalid syntax`.
-/

namespace SwapArchive

/-- Why a text is not an integer. -/
inductive NumFailure where
  | badSyntax
  | outOfRange
  deriving DecidableEq, Repr

/-- A failed integer reading: the reading function's name, the input and the cause. -/
structure NumError where
  func : String
  input : String
  failure : NumFailure
  deriving DecidableEq, Repr

namespace NumError

/-- The message of a failed reading. -/
def message (e : NumError) : String :=
  "strconv." ++ e.func ++ ": parsing " ++ Quoted.quote e.input ++ ": " ++
    (match e.failure with
      | .badSyntax => "invalid syntax"
      | .outOfRange => "value out of range")

end NumError

namespace IntText

/-- Reads ASCII digits into `acc`, failing at the first non-digit, or when the value passes
`max`. -/
def digitsUpTo (max : Nat) (acc : Nat) : List Char → Except NumFailure Nat
  | [] => .ok acc
  | c :: rest =>
    if '0' ≤ c ∧ c ≤ '9' then
      let acc' := acc * 10 + (c.toNat - 48)
      if acc' > max then .error .outOfRange else digitsUpTo max acc' rest
    else .error .badSyntax

/-- The magnitude of an unsigned digit string of at most `bits` bits. -/
def magnitude (bits : Nat) (cs : List Char) : Except NumFailure Nat :=
  if cs.isEmpty then .error .badSyntax else digitsUpTo (Nat.pow 2 bits - 1) 0 cs

/-- Reads a signed integer of `bits` bits; errors name the reading function `func`. -/
def parse (func : String) (bits : Nat) (s : String) : Except NumError Int :=
  let fail := fun (f : NumFailure) => Except.error (NumError.mk func s f)
  let (neg, body) : Bool × List Char := match s.toList with
    | '+' :: rest => (false, rest)
    | '-' :: rest => (true, rest)
    | cs => (false, cs)
  match magnitude bits body with
  | .error f => fail f
  | .ok n =>
    if neg then (if n > Nat.pow 2 (bits - 1) then fail .outOfRange else .ok (-(n : Int)))
    else (if n ≥ Nat.pow 2 (bits - 1) then fail .outOfRange else .ok n)

/-- Reads a 64-bit signed integer, as the general integer reader. -/
def parseInt64 (s : String) : Except NumError Int := parse "ParseInt" 64 s

/-- Reads a machine integer, as the short-form integer reader. -/
def atoi (s : String) : Except NumError Int := parse "Atoi" 64 s

end IntText

end SwapArchive
