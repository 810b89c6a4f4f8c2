import SwapArchive.Ingest.Steps

/-!
# Live tail

The live tail keeps a source's table current. It starts from the newest timestamp the table
holds (from now if the table is empty), takes the feed's page of events at or after it and walks
to older pages while they have events, storing each page's records one by one. It stops at a
page without events, at a page with no older cursor, or after the pass's page limit.
-/

namespace SwapArchive

namespace Ingestor

open PassM

variable {σ : Type} (svc : Services σ)

/-- Takes in `page` and the pages older than it, `left` pages at most. -/
def tailWalk (src : MidgardSource σ) : Nat → ActionsPage → PassM σ Unit
  | 0, _ => pure ()
  | left + 1, page =>
    if page.items.isEmpty then pure ()
    else do
      let records ← takePage svc src .liveTail page.items
      loadEach svc src .liveTail records
      if page.prevPageToken = "" ∨ left = 0 then pure ()
      else do
        let older ← fetch svc src.config.kind (.prev page.prevPageToken)
        tailWalk src left older

/-- The live tail of a source. A run while another is going on does nothing. -/
def liveTail (g : Ingestor) (kind : String) : PassM σ Unit := do
  let src ← g.midgard svc kind
  exclusive svc (lockKey kind .liveTail) do
    let table := src.config.table
    let latest ← attempt (svc.latestTimestamp table)
      (fun c => .database ⟨"latest timestamp", table, c⟩)
    let start ← match latest with
      | some ts => pure ts
      | none => do pure (svc.now (← get)).sec
    let page ← fetch svc kind (.latest start)
    tailWalk svc src g.maxPages page

end Ingestor

end SwapArchive
