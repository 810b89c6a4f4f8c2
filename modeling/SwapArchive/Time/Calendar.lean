
/-!
# The proleptic Gregorian calendar

Days are counted from 1970-01-01 (day 0), in both directions; years are astronomical (year 0 is
1 BC). `Calendar.daysFromCivil` and `Calendar.civilFromDays` convert between a day number and
`(year, month, day)` using 400-year eras of 146097 days; an instant is a number of Unix seconds
with nanoseconds, and `Civil` is its reading at a given offset from UTC.

Seconds are signed 64-bit words. A reading counts the seconds of the local clock from 1 March of
year -292277022400 (`Calendar.firstSecond`) in an unsigned 64-bit word, so a local second before
that day is read as the second 2^64 later.
-/

namespace SwapArchive

namespace Word

/-- The number of 64-bit words. -/
def modulus64 : Int := Int.pow 2 64

/-- The least signed 64-bit word. -/
def min64 : Int := -Int.pow 2 63

/-- The signed 64-bit word congruent to `x`. -/
def wrap64 (x : Int) : Int := (x - min64) % modulus64 + min64

/-- A word in the signed range is its own wrap. -/
theorem wrap64_of_range (x : Int) (lo : min64 ≤ x) (hi : x < min64 + modulus64) : wrap64 x = x := by
  unfold wrap64
  rw [Int.emod_eq_of_lt (by omega) (by omega)]
  omega

end Word

namespace Calendar

/-- Is the year a leap year? -/
def isLeap (y : Int) : Bool := y % 4 = 0 ∧ (y % 100 ≠ 0 ∨ y % 400 = 0)

/-- The number of days of a month (1 to 12) in a year. -/
def daysIn (month : Nat) (y : Int) : Nat :=
  match month with
  | 2 => if isLeap y then 29 else 28
  | 4 | 6 | 9 | 11 => 30
  | _ => 31

/-- The day number of a date; month and day may lie outside their ranges, which then carry
over (the day is added to the first of the month, the month is counted from January). -/
def daysFromCivil (y : Int) (m : Nat) (d : Int) : Int :=
  let y := if m ≤ 2 then y - 1 else y
  let era := y / 400
  let yoe := y - era * 400
  let mp : Int := if m > 2 then (m : Int) - 3 else (m : Int) + 9
  let doy := (153 * mp + 2) / 5
  let doe := yoe * 365 + yoe / 4 - yoe / 100 + doy
  era * 146097 + doe - 719468 + (d - 1)

/-- The date of a day number. -/
def civilFromDays (z : Int) : Int × Nat × Nat :=
  let z := z + 719468
  let era := z / 146097
  let doe := z - era * 146097
  let yoe := (doe - doe / 1460 + doe / 36524 - doe / 146096) / 365
  let y := yoe + era * 400
  let doy := doe - (365 * yoe + yoe / 4 - yoe / 100)
  let mp := (5 * doy + 2) / 153
  let d := doy - (153 * mp + 2) / 5 + 1
  let m := if mp < 10 then mp + 3 else mp - 9
  ((if m ≤ 2 then y + 1 else y), m.toNat, d.toNat)

/-- The day of the week, 0 for Sunday. -/
def weekday (z : Int) : Nat := ((z + 4) % 7).toNat

/-- The first second a reading can show: 1 March of year -292277022400, in Unix seconds. -/
def firstSecond : Int := daysFromCivil (-292277022400) 3 1 * 86400

/-- The local second a reading shows for the local second `s`: the one congruent to it modulo
2^64 in the 2^64 seconds from `firstSecond`. -/
def readable (s : Int) : Int := firstSecond + (s - firstSecond) % Word.modulus64

end Calendar

/-- An instant: Unix seconds and the nanoseconds within that second. -/
structure Instant where
  sec : Int
  nsec : Nat
  deriving DecidableEq, Repr

namespace Instant

/-- The instant `sec` seconds and `nsec` nanoseconds after the epoch, nanoseconds outside
`[0, 10^9)` carried into the seconds, which wrap as a word. -/
def ofUnix (sec nsec : Int) : Instant :=
  ⟨Word.wrap64 (sec + nsec / 1000000000), (nsec % 1000000000).toNat⟩

/-- The instant `n` nanoseconds after the epoch. -/
def ofNanos (n : Int) : Instant := ofUnix 0 n

/-- The instant `d` seconds later. -/
def addSeconds (t : Instant) (d : Int) : Instant := ⟨t.sec + d, t.nsec⟩

end Instant

/-- The reading of an instant on a clock at some offset: date, time of day and nanoseconds. -/
structure Civil where
  year : Int
  month : Nat
  day : Nat
  hour : Nat
  minute : Nat
  second : Nat
  nsec : Nat
  deriving DecidableEq, Repr

namespace Civil

/-- The reading of an instant on a clock `offset` seconds ahead of UTC. -/
def ofInstant (t : Instant) (offset : Int) : Civil :=
  let wall := Calendar.readable (t.sec + offset)
  let days := wall / 86400
  let secs := (wall % 86400).toNat
  let (y, m, d) := Calendar.civilFromDays days
  ⟨y, m, d, secs / 3600, secs / 60 % 60, secs % 60, t.nsec⟩

/-- The seconds of the reading counted as if it were UTC. -/
def toLocalSeconds (c : Civil) : Int :=
  Calendar.daysFromCivil c.year c.month c.day * 86400 + c.hour * 3600 + c.minute * 60 + c.second

end Civil

end SwapArchive
