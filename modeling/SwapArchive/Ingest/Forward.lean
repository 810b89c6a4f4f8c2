import SwapArchive.Ingest.Steps

/-!
# Forward history

The forward walk reads a source's history from old to new, resuming at the saved `next` cursor
(from the very first page when none is saved). Each page's records are stored as a batch, and
only then is the page's newer-page cursor saved, so the saved cursor never passes a page whose
records were refused. The walk stops at a page without events, at the newest page (whose empty
cursor is not saved), after the page limit, or when the caller gives up, which is looked at
before each page is fetched.
-/

namespace SwapArchive

namespace Ingestor

open PassM

variable {σ : Type} (svc : Services σ)

/-- Takes in the page at `cursor` and newer ones, `left` pages at most. -/
def forwardWalk (src : MidgardSource σ) : Nat → String → PassM σ Unit
  | 0, _ => pure ()
  | left + 1, cursor => do
    if svc.cancelled (← get) then pure ()
    else
      let page ← fetch svc src.config.kind (.next cursor)
      if page.items.isEmpty then pure ()
      else
        let records ← takePage svc src .forwardHistory page.items
        loadBatch svc src.config.kind src.writer .forwardHistory records
        if page.nextPageToken = "" then pure ()
        else
          saveCursor svc src.config.kind .next page.nextPageToken
          forwardWalk src left page.nextPageToken

/-- The forward history walk of a source. A run while another is going on does nothing. -/
def forwardHistory (g : Ingestor) (kind : String) : PassM σ Unit := do
  let src ← g.midgard svc kind
  exclusive svc (lockKey kind .forwardHistory) do
    let cursor ← attempt (svc.readCursor kind .next) PassError.cursor
    forwardWalk svc src g.maxPages cursor

end Ingestor

end SwapArchive
