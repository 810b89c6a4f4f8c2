/-!
# The shortest decimal that reads back as a double

Every finite double `x = m · 2^e` owns the interval of reals that round to it: half the gap to
each neighbour on either side, both ends included when `m` is even (a tie rounds to the even
significand). At a power of two the gap below is half the gap above.

`Shortest.digits` walks the decimal grids with 1, 2, … 17 significant digits. On each grid it
tests the two grid points next to `x`; the first grid with a point in the interval gives the
answer, the nearer of two points wins and an exact tie goes to the even one. Seventeen digits
always suffice, so the walk ends there. All comparisons are exact, in natural numbers.
-/

namespace SwapArchive

/-- A decimal number `digits · 10^exp` with no trailing zero in `digits` (zero is `0 · 10^0`). -/
structure Scientific where
  digits : Nat
  exp : Int
  deriving Repr, BEq

namespace Shortest

/-- Sign, biased exponent and fraction field of a double. -/
def fields (x : Float) : Bool × Nat × Nat :=
  let b := x.toBits.toNat
  (b ≥ Nat.pow 2 63, b / Nat.pow 2 52 % 2048, b % Nat.pow 2 52)

/-- Compares `c · 10^a · 2^b` with `r`, in exact arithmetic. -/
def cmpScaled (c : Nat) (a b : Int) (r : Nat) : Ordering :=
  compare (c * Nat.pow 10 a.toNat * Nat.pow 2 b.toNat) (r * Nat.pow 10 (-a).toNat * Nat.pow 2 (-b).toNat)

/-- The number of decimal digits of a positive number. -/
def decimalLength (n : Nat) : Nat := (Nat.repr n).length

/-- Drops trailing zeros of the digit string, raising the exponent. -/
def normalize (digits : Nat) (exp : Int) (fuel : Nat) : Scientific :=
  match fuel with
  | 0 => ⟨digits, exp⟩
  | fuel + 1 =>
    if digits ≠ 0 ∧ digits % 10 = 0 then normalize (digits / 10) (exp + 1) fuel
    else ⟨digits, exp⟩

/-- The rounding interval of `m · 2^e`, scaled by `2^(2-e)`: the value is `4m`, the upper end
`4m + 2`, the lower end `4m - 2`, or `4m - 1` just above a power of two. -/
structure Interval where
  value : Nat
  lower : Nat
  upper : Nat
  closed : Bool

/-- Is the grid point `c · 10^k` inside the interval of a double with exponent `e`? -/
def Interval.contains (iv : Interval) (e : Int) (c : Nat) (k : Int) : Bool :=
  let lo := cmpScaled c k (2 - e) iv.lower
  let hi := cmpScaled c k (2 - e) iv.upper
  if iv.closed then lo != .lt && hi != .gt else lo == .gt && hi == .lt

/-- Picks the point of the grid `10^k` nearest to the value among `c` and `c + 1`, each kept only
if it lies in the interval; a tie goes to the even one. -/
def pick (iv : Interval) (e : Int) (c : Nat) (k : Int) : Option Nat :=
  let inLow := iv.contains e c k
  let inHigh := iv.contains e (c + 1) k
  if inLow && inHigh then
    let below := iv.value * Nat.pow 10 (-k).toNat * Nat.pow 2 (e - 2).toNat
    let scale := Nat.pow 10 k.toNat * Nat.pow 2 (2 - e).toNat
    let lowPoint := c * scale
    let highPoint := (c + 1) * scale
    let v := below
    match compare (v - lowPoint) (highPoint - v) with
    | .lt => some c
    | .gt => some (c + 1)
    | .eq => some (if c % 2 = 0 then c else c + 1)
  else if inLow then some c
  else if inHigh then some (c + 1)
  else none

/-- Walks the grids with `n`, `n + 1`, … significant digits, for a value with decimal exponent
`E` (its leading digit stands at `10^E`). -/
def search (iv : Interval) (e : Int) (num den : Nat) (E : Int) (n : Nat) (fuel : Nat) :
    Scientific :=
  match fuel with
  | 0 => ⟨0, 0⟩
  | fuel + 1 =>
    let k : Int := E - n + 1
    let c := num * Nat.pow 10 (-k).toNat / (den * Nat.pow 10 k.toNat)
    match pick iv e c k with
    | some d => normalize d k (n + 2)
    | none => search iv e num den E (n + 1) fuel

/-- The shortest decimal of a finite, nonzero magnitude `m · 2^e`. -/
def ofDyadic (m : Nat) (e : Int) (closed atPowerOfTwo : Bool) : Scientific :=
  let iv : Interval :=
    { value := 4 * m, upper := 4 * m + 2
      lower := if atPowerOfTwo then 4 * m - 1 else 4 * m - 2
      closed := closed }
  let num := m * Nat.pow 2 e.toNat
  let den := Nat.pow 2 (-e).toNat
  let E : Int :=
    if num ≥ den then (decimalLength (num / den) : Int) - 1
    else (decimalLength (num * Nat.pow 10 400 / den) : Int) - 1 - 400
  search iv e num den E 1 17

/-- The shortest decimal that reads back as the magnitude of a finite double. Zero gives `0`. -/
def ofFloat (x : Float) : Scientific :=
  let (_, biased, frac) := fields x
  if biased = 0 ∧ frac = 0 then ⟨0, 0⟩
  else if biased = 0 then ofDyadic frac (-1074) (frac % 2 = 0) false
  else
    let m := frac + Nat.pow 2 52
    ofDyadic m ((biased : Int) - 1075) (m % 2 = 0) (frac = 0 ∧ biased > 1)

end Shortest

end SwapArchive
