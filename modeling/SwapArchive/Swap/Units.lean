import SwapArchive.Number.Decimal
import SwapArchive.Number.IntText
import SwapArchive.Text.Clean
import SwapArchive.Time.Layout

/-!
# Amounts, timestamps and dates of the feeds

* An amount arrives in base units as text; `Units.standard raw decimals` reads it (blanks around
  it allowed) and moves the point `decimals` places to the left.
* A Midgard timestamp is a count of nanoseconds since the epoch as text (blanks allowed).
* Rows show the day as `DD-MM-YYYY` and the time as a lower-case twelve-hour clock `hh:mmam`,
  both in UTC; the stored date is `YYYY-MM-DD`, made from the shown one.
-/

namespace SwapArchive

namespace Units

/-- The amount `raw` (in base units) in standard units of an asset with `decimals` decimals. -/
def standard (raw : String) (decimals : Int) : Except Decimal.ParseFailure Decimal := do
  let d ← Decimal.parse (Clean.trim raw)
  pure (d.shift (Decimal.wrap32 (-decimals)))

/-- The instant of a nanosecond timestamp. -/
def nanoTimestamp (nanos : String) : Except NumError Instant := do
  let n ← IntText.parseInt64 (Clean.trim nanos)
  pure (Instant.ofNanos n)

/-- The shown date `DD-MM-YYYY` and clock `hh:mmam` of an instant, in UTC. -/
def displayDateTime (t : Instant) : String × String :=
  let c := Civil.ofInstant t 0
  (TimeText.dayMonthYear c, TimeText.clock12 c)

/-- The stored date `YYYY-MM-DD` of a shown date `DD-MM-YYYY`. -/
def sqlDate (display : String) : Except ParseError String := do
  let t ← Layout.dayMonthYear.read display
  pure (TimeText.date (Civil.ofInstant t 0))

end Units

end SwapArchive
