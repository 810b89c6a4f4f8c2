import SwapArchive.Ingest.Steps

/-!
# Daily closing price

Once a day the price of bitcoin at the start of the current UTC day is fetched and kept as the
closing price of the day before, under that day's date `YYYY-MM-DD`; a price already kept for
that day is replaced.
-/

namespace SwapArchive

namespace ClosingPrice

/-- The first instant of the UTC day of `t`. -/
def dayStart (t : Instant) : Instant := ⟨t.sec - t.sec % 86400, 0⟩

/-- The date `YYYY-MM-DD` of the UTC day before the day of `t`. -/
def dayBefore (t : Instant) : String :=
  TimeText.date (Civil.ofInstant ((dayStart t).addSeconds (-86400)) 0)

/-- Is the price kept under the day before the day of `now`? -/
def isDayBefore (p : ClosingPrice) (now : Instant) : Bool := p.date = dayBefore now

end ClosingPrice

namespace Ingestor

open PassM

variable {σ : Type} (svc : Services σ)

/-- Fetches and keeps the closing price of the day before. -/
def closingPrice (g : Ingestor) : PassM σ Unit :=
  if !g.priceFeed then throw .noPriceFeed
  else do
    let now := svc.now (← get)
    let price ← attempt (svc.fetchPrice closingCoin (ClosingPrice.dayStart now))
      PassError.remote
    let row : ClosingPrice := ⟨ClosingPrice.dayBefore now, closingCoin, price⟩
    attempt (svc.upsertClosingPrice row) fun c => .database ⟨"upsert", closingTable, c⟩

end Ingestor

end SwapArchive
