/-!
# The double nearest to a rational number

A binary64 double is `±m · 2^e` with `m < 2^53`; normal doubles have `2^52 ≤ m` and
`-1074 ≤ e ≤ 971`, subnormal ones have `e = -1074`. `Binary64.nearest` picks the double nearest to
`±num / den`: the quotient is cut to 53 significant bits, or fewer where the exponent would drop
below `-1074`, and the remainder decides the last bit, a tie going to the even significand.
Magnitudes from `2^1024` on (after rounding) become infinity, and magnitudes that round to zero
keep their sign.
-/

namespace SwapArchive

namespace Binary64

/-- The bit pattern of a double from its sign, biased exponent and fraction field. -/
def pack (neg : Bool) (biased frac : Nat) : UInt64 :=
  UInt64.ofNat ((if neg then Nat.pow 2 63 else 0) + biased * Nat.pow 2 52 + frac)

/-- `⌊num · 2^s / den⌋` and whether the rest is below, at or above one half. -/
def scaledQuotient (num den : Nat) (s : Int) : Nat × Ordering :=
  let n := num * Nat.pow 2 s.toNat
  let d := den * Nat.pow 2 (-s).toNat
  (n / d, compare (2 * (n % d)) d)

/-- Rounds a significand by the rest: up past one half, and at one half to an even significand. -/
def roundHalfEven (m : Nat) (rest : Ordering) : Nat :=
  match rest with
  | .gt => m + 1
  | .eq => if m % 2 = 1 then m + 1 else m
  | .lt => m

/-- The bit pattern of the double nearest to `±num / den`, for `den > 0`. -/
def nearestBits (neg : Bool) (num den : Nat) : UInt64 :=
  if num = 0 ∨ den = 0 then pack neg 0 0
  else
    let l : Int := (Nat.log2 num : Int) - (Nat.log2 den : Int)
    -- `num / den` lies in `[2^(l-1), 2^(l+1))`, so with `s0 = 53 - l` the quotient has 53 or
    -- 54 bits.
    let s0 : Int := 53 - l
    let s1 : Int := if (scaledQuotient num den s0).1 < Nat.pow 2 53 then s0 else s0 - 1
    let s : Int := min s1 1074
    let (q, rest) := scaledQuotient num den s
    let m := roundHalfEven q rest
    let (m, e) : Nat × Int := if m = Nat.pow 2 53 then (Nat.pow 2 52, -s + 1) else (m, -s)
    if m < Nat.pow 2 52 then pack neg 0 m
    else
      let biased := e + 1075
      if biased ≥ 2047 then pack neg 2047 0
      else pack neg biased.toNat (m - Nat.pow 2 52)

/-- The double nearest to `±num / den`, for `den > 0`. -/
def nearest (neg : Bool) (num den : Nat) : Float :=
  Float.ofBits (nearestBits neg num den)

/-- The number of decimal digits of a positive number. -/
def decimalLength (n : Nat) : Nat := (Nat.repr n).length

/-- The double nearest to `±coeff · 10^exp`. Magnitudes far outside the range of doubles are
settled from the digit count alone, without forming the power of ten. -/
def ofScientific (neg : Bool) (coeff : Nat) (exp : Int) : Float :=
  if coeff = 0 then nearest neg 0 1
  else
    let magnitude : Int := (decimalLength coeff : Int) + exp
    if magnitude > 400 then Float.ofBits (pack neg 2047 0)
    else if magnitude < -400 then Float.ofBits (pack neg 0 0)
    else if exp ≥ 0 then nearest neg (coeff * Nat.pow 10 exp.toNat) 1
    else nearest neg coeff (Nat.pow 10 (-exp).toNat)

end Binary64

end SwapArchive
