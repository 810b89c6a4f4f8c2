import SwapArchive.Ingest.Steps
import SwapArchive.Swap.Units
import SwapArchive.Time.Zone

/-!
# Reconciliation of a window

Reconciliation walks a window `[from, to)` of a source's history again, to fill in what the live
tail missed. From the feed's page for `from` it walks to older pages, storing as a batch the
records of each page whose timestamp lies in the window and tracking every pending id it meets.
It stops after the first page whose readable event dates are all at or after `to`, at the oldest
page, at a page without events, or after the page limit. `Reconcile.window` is one local calendar
day: from the first instant of the day that holds `now` in a zone to that of the next day.
-/

namespace SwapArchive

namespace Instant

/-- Is `t` strictly earlier than `u`? -/
def before (t u : Instant) : Bool := t.sec < u.sec ∨ (t.sec = u.sec ∧ t.nsec < u.nsec)

end Instant

namespace Reconcile

/-- Keeps the records whose timestamp lies in `[from, to)`, in order. -/
def inWindow (records : List SwapRecord) (fromUnix toUnix : Int) : List SwapRecord :=
  records.filter fun r => fromUnix ≤ r.timestamp ∧ r.timestamp < toUnix

/-- Do the actions have a readable date, and are all readable dates at or after `stop`? -/
def startsAfter (stop : Instant) : List Action → Bool → Bool
  | [], seen => seen
  | a :: rest, seen =>
    match Units.nanoTimestamp a.date with
    | .error _ => startsAfter stop rest seen
    | .ok t => if t.before stop then false else startsAfter stop rest true

/-- The local calendar day of `now` in zone `z`: its first instant and the next day's. -/
def window (now : Instant) (z : Zone) : Instant × Instant :=
  let c := z.civil now
  let start := z.date c.year c.month c.day 0 0 0 0
  let s := z.civil start
  (start, z.date s.year s.month (s.day + 1) s.hour s.minute s.second s.nsec)

end Reconcile

namespace Ingestor

open PassM

variable {σ : Type} (svc : Services σ)

/-- Takes in `page` and the pages older than it, `left` pages at most, storing what falls in
`[from, to)`. -/
def reconcileWalk (src : MidgardSource σ) (start stop : Instant) : Nat → ActionsPage → PassM σ Unit
  | 0, _ => pure ()
  | left + 1, page =>
    if page.items.isEmpty then pure ()
    else do
      let records ← takePage svc src .reconcile page.items
      let kept := Reconcile.inWindow records start.sec stop.sec
      loadBatch svc src.config.kind src.writer .reconcile kept
      if Reconcile.startsAfter stop page.items false ∨ page.prevPageToken = "" ∨ left = 0 then
        pure ()
      else do
        let older ← fetch svc src.config.kind (.prev page.prevPageToken)
        reconcileWalk src start stop left older

/-- Reconciles a source's window `[start, stop)`. A run while another is going on does
nothing. -/
def reconcile (g : Ingestor) (kind : String) (start stop : Instant) : PassM σ Unit := do
  let src ← g.midgard svc kind
  exclusive svc (lockKey kind .reconcile) do
    let page ← fetch svc kind (.latest start.sec)
    reconcileWalk svc src start stop g.maxPages page

end Ingestor

end SwapArchive
