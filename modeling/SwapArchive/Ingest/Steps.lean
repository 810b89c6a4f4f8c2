import SwapArchive.Ingest.Ingestor

/-!
# Steps shared by the Midgard passes

* `fetch` asks a source's feed for a page; a feed failure ends the pass.
* `takePage` transforms a page's actions, then reports the page, the actions dropped as
  malformed (if any) and the source's pending-set size after adding the page's pending ids.
* `loadEach` stores records one by one and `loadBatch` as a batch; both report how many were
  stored and refused, and end the pass with the first refusal when nothing was stored.
* `saveCursor` saves a cursor and reports the save with the current time.
-/

namespace SwapArchive

namespace Ingestor

open PassM

variable {σ : Type} (svc : Services σ)

/-- Asks a source's feed for a page; a failure of the feed ends the pass. -/
def fetch (kind : String) (req : PageRequest) : PassM σ ActionsPage :=
  attempt (svc.fetchPage kind req) PassError.remote

/-- Reports the size of a kind's pending set. -/
def reportPending (kind : String) : PassM σ Unit := do
  let n ← perform (svc.pendingCount kind)
  report svc (.pendingSize kind n)

/-- Adds ids to a kind's pending set and reports its size. -/
def trackPending (kind : String) (ids : List String) : PassM σ Unit := do
  modify (svc.trackPending kind ids)
  reportPending svc kind

/-- Transforms a page: reports it, its dropped actions and the pending set, and gives its
records. An accepted action with neither record nor id stops the pass. -/
def takePage (src : MidgardSource σ) (pass : PassName) (actions : List Action) :
    PassM σ (List SwapRecord) :=
  match src.transformer.transformPage actions with
  | .error m => throw (.crash m)
  | .ok res => do
    report svc (.pageFetched src.config.kind pass)
    if res.skipped > 0 then report svc (.recordsSkipped src.config.kind pass res.skipped)
    trackPending svc src.config.kind res.pending
    pure res.records

/-- Stores records one by one and reports the counts; if none was stored, the first refusal
ends the pass. -/
def loadEach (src : MidgardSource σ) (pass : PassName) (records : List SwapRecord) :
    PassM σ Unit := do
  let (n, errs) ← ExceptT.lift (src.writer.loadEach records)
  report svc (.recordsLoaded src.config.kind pass n errs.length)
  match n, errs with
  | 0, e :: _ => throw (.database e)
  | _, _ => pure ()

/-- Stores records as a batch (one by one if the batch is refused) and reports the counts; no
record, no report. If none was stored, the first refusal ends the pass. -/
def loadBatch {α : Type} (kind : String) (w : Writer σ α) (pass : PassName) (records : List α) :
    PassM σ Unit :=
  if records.isEmpty then pure ()
  else do
    let (n, errs) ← ExceptT.lift (w.loadBatch records)
    report svc (.recordsLoaded kind pass n errs.length)
    match n, errs with
    | 0, e :: _ => throw (.database e)
    | _, _ => pure ()

/-- Saves a cursor and reports the save. -/
def saveCursor (kind : String) (dir : Direction) (cursor : String) : PassM σ Unit := do
  attempt (svc.writeCursor kind dir cursor) PassError.cursor
  let t := svc.now (← get)
  report svc (.cursorSaved kind dir t.sec)

end Ingestor

end SwapArchive
