import SwapArchive.Text.Quoted

/-!
# Durations written as text

`Duration.parse` reads a duration such as `300ms`, `-1.5h` or `2h45m` into nanoseconds: an
optional sign, then numbers each followed by a unit (`ns`, `us`, `µs`, `μs`, `ms`, `s`, `m`,
`h`); a lone `0` needs none. Whole parts are exact, fractions scaled in double precision and cut
to whole nanoseconds; a duration beyond the signed 64-bit range is refused. Failures read `time:
invalid duration`, `time: missing unit in duration` or `time: unknown unit`, texts quoted byte by
byte. `Duration.text` writes nanoseconds back: under a second in the largest of `ns`, `µs`, `ms`
that fits (`1.5ms`), else as hours, minutes and seconds, leading zero units left out (`4m0s`,
`2.5s`), fractions without trailing zeros, and zero as `0s`.
-/

namespace SwapArchive

namespace Duration

/-- The number of nanoseconds in a unit. -/
def unitScale : String → Option Nat
  | "ns" => some 1
  | "us" => some 1000
  | "µs" => some 1000
  | "μs" => some 1000
  | "ms" => some 1000000
  | "s" => some 1000000000
  | "m" => some 60000000000
  | "h" => some 3600000000000
  | _ => none

/-- `2^63`, one past the largest duration. -/
def limit : Nat := Nat.pow 2 63

/-- Is the character an ASCII digit? -/
def isDigit (c : Char) : Bool := '0' ≤ c ∧ c ≤ '9'

/-- Reads the digits of a whole part; none when the value passes `2^63`. -/
def leadingInt (x : Nat) : List Char → Option Nat × List Char
  | [] => (some x, [])
  | c :: rest =>
    if isDigit c then
      if x > limit / 10 then (none, rest)
      else
        let x := x * 10 + (c.toNat - 48)
        if x > limit then (none, rest) else leadingInt x rest
    else (some x, c :: rest)

/-- Reads the digits of a fraction: its value and the power of ten under it, ignoring digits
once the value would pass the range. -/
def leadingFraction (x : Nat) (scale : Float) (overflow : Bool) : List Char → Nat × Float × List Char
  | [] => (x, scale, [])
  | c :: rest =>
    if isDigit c then
      if overflow then leadingFraction x scale true rest
      else if x > (limit - 1) / 10 then leadingFraction x scale true rest
      else
        let y := x * 10 + (c.toNat - 48)
        if y > limit then leadingFraction x scale true rest
        else leadingFraction y (scale * 10) false rest
    else (x, scale, c :: rest)

/-- Why a duration text was refused. -/
def invalid (orig : String) : String := "time: invalid duration " ++ Quoted.quoteBytes orig

/-- Reads the numbers and units of a duration after its sign, adding their nanoseconds to `d`. -/
def components (orig : String) : Nat → Nat → List Char → Except String Nat
  | _, d, [] => .ok d
  | 0, _, _ => .error (invalid orig)
  | fuel + 1, d, c :: cs => do
    if ¬(c = '.' ∨ isDigit c) then throw (invalid orig)
    let s := c :: cs
    let (v, afterInt) := leadingInt 0 s
    let some v := v | throw (invalid orig)
    let pre := afterInt.length ≠ s.length
    let (f, scale, afterFrac, post) : Nat × Float × List Char × Bool := match afterInt with
      | '.' :: more =>
        let (f, scale, rest) := leadingFraction 0 1 false more
        (f, scale, rest, rest.length ≠ more.length)
      | _ => (0, 1, afterInt, false)
    if ¬pre ∧ ¬post then throw (invalid orig)
    let unitChars := afterFrac.takeWhile fun c => ¬(c = '.' ∨ isDigit c)
    let rest := afterFrac.dropWhile fun c => ¬(c = '.' ∨ isDigit c)
    if unitChars.isEmpty then throw ("time: missing unit in duration " ++ Quoted.quoteBytes orig)
    let u := String.ofList unitChars
    let some unit := unitScale u
      | throw ("time: unknown unit " ++ Quoted.quoteBytes u ++ " in duration " ++ Quoted.quoteBytes orig)
    if v > limit / unit then throw (invalid orig)
    let v := v * unit
    let v := if f > 0 then v + (f.toFloat * (unit.toFloat / scale)).toUInt64.toNat else v
    if v > limit then throw (invalid orig)
    let d := d + v
    if d > limit then throw (invalid orig)
    components orig fuel d rest

/-- Reads a duration into nanoseconds. -/
def parse (orig : String) : Except String Int :=
  let (neg, body) : Bool × List Char := match orig.toList with
    | '-' :: rest => (true, rest)
    | '+' :: rest => (false, rest)
    | cs => (false, cs)
  if body = ['0'] then .ok 0
  else if body = [] then .error (invalid orig)
  else do
    let d ← components orig body.length 0 body
    if neg then pure (-(d : Int))
    else if d > limit - 1 then throw (invalid orig)
    else pure d

/-- The digits of `v / 10^prec` after the point, trailing zeros left out, with the point when
any digit is left; and the whole part `v / 10^prec`. -/
def fraction (v : Nat) (prec : Nat) : String × Nat :=
  let digits := (List.range prec).map fun i => v / Nat.pow 10 i % 10
  let kept := digits.dropWhile (· = 0)
  let text := String.ofList (kept.reverse.map fun d => Char.ofNat (d + 48))
  (if kept.isEmpty then "" else "." ++ text, v / Nat.pow 10 prec)

/-- The text of a non-negative count of nanoseconds. -/
def magnitudeText (u : Nat) : String :=
  if u = 0 then "0s"
  else if u < 1000000000 then
    let (prec, unit) := if u < 1000 then (0, "ns") else if u < 1000000 then (3, "µs") else (6, "ms")
    let (frac, whole) := fraction u prec
    toString whole ++ frac ++ unit
  else
    let (frac, secs) := fraction u 9
    let mins := secs / 60
    let hours := mins / 60
    let tail := toString (secs % 60) ++ frac ++ "s"
    if mins = 0 then tail
    else if hours = 0 then toString (mins % 60) ++ "m" ++ tail
    else toString hours ++ "h" ++ toString (mins % 60) ++ "m" ++ tail

/-- The text of a duration in nanoseconds. -/
def text (d : Int) : String :=
  if d < 0 then "-" ++ magnitudeText d.natAbs else magnitudeText d.natAbs

end Duration

end SwapArchive
