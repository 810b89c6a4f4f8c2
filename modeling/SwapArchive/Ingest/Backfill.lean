import SwapArchive.Ingest.Steps

/-!
# Backfill

The backfill walks a source's history from new to old, resuming at the saved `prev` cursor or at
the page of the backfill start time, and stores the records gathered every `flushEvery` pages.
The cursor saved after each page is `resume`, the cursor of the first page not yet stored, so it
only ever names a page whose records, and those of every newer page, are stored. The walk stops
at a page without events, at the oldest page, after the page limit, or when the caller gives up;
then what is gathered is stored and the cursor after the last page (its older-page cursor, or for
the oldest page the cursor that fetched it) is saved. A failed fetch of an older page runs the
same finishing step first, and its own failure, if any, is the one reported.
-/

namespace SwapArchive

namespace Ingestor

open PassM

variable {σ : Type} (svc : Services σ)

/-- Where a backfill stands between pages. -/
structure BackfillState where
  /-- Records read and not yet stored. -/
  batch : List SwapRecord
  /-- How many pages `batch` comes from. -/
  batchPages : Nat
  /-- The cursor that fetched the last page read. -/
  current : String
  /-- The cursor of the first page whose records are not yet stored. -/
  resume : String

/-- Stores the gathered records; `next` becomes the resume cursor. -/
def flush (src : MidgardSource σ) (st : BackfillState) (next : String) :
    PassM σ BackfillState := do
  loadBatch svc src.config.kind src.writer .backfill st.batch
  pure { st with batch := [], batchPages := 0, resume := next }

/-- Stores what is gathered and saves the cursor after the last page. -/
def finishBackfill (src : MidgardSource σ) (st : BackfillState) : PassM σ Unit := do
  let st ← flush svc src st st.current
  saveCursor svc src.config.kind .prev st.current

/-- Takes in `page` and the pages older than it, `left` pages at most. -/
def backfillWalk (src : MidgardSource σ) (flushEvery : Nat) :
    Nat → ActionsPage → BackfillState → PassM σ BackfillState
  | 0, _, st => pure st
  | left + 1, page, st =>
    if page.items.isEmpty then pure st
    else do
      let records ← takePage svc src .backfill page.items
      let next := if page.prevPageToken = "" then st.current else page.prevPageToken
      let st := { st with batch := st.batch ++ records, batchPages := st.batchPages + 1 }
      let st ← if st.batchPages ≥ flushEvery then flush svc src st next else pure st
      saveCursor svc src.config.kind .prev st.resume
      let stop := page.prevPageToken = "" ∨ left = 0 ∨ svc.cancelled (← get)
      let st := { st with current := next }
      if stop then pure st
      else
        match ← perform (svc.fetchPage src.config.kind (.prev next)) with
        | .error m => do
          finishBackfill svc src st
          throw (.remote m)
        | .ok older => backfillWalk src flushEvery left older st

/-- The backfill of a source. A run while another is going on does nothing. -/
def backfill (g : Ingestor) (kind : String) : PassM σ Unit := do
  let src ← g.midgard svc kind
  exclusive svc (lockKey kind .backfill) do
    let cursor ← attempt (svc.readCursor kind .prev) PassError.cursor
    let first ← fetch svc kind (if cursor = "" then .latest g.backfillStart else .prev cursor)
    let st ← backfillWalk svc src g.flushEvery g.maxPages first ⟨[], 0, cursor, cursor⟩
    finishBackfill svc src st

end Ingestor

end SwapArchive
