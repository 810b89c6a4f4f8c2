import SwapArchive.Ingest.Progress
import SwapArchive.Number.FloatText

/-!
# Ingestion metrics

The counters and gauges an operator watches are a summary of the progress reports: pages taken
in, records stored, refused and dropped per source and pass, the last pending-set size per source
and the time of the last cursor save per source and direction. `IngestMetrics.observe` folds one
report in; a family's series appears with its first report, and a refused or dropped count of
zero creates no series.

`IngestMetrics.lines` writes one line `name{label=value,...} value` per series, labels by name,
values in the shortest general float form, all lines in byte order.
-/

namespace SwapArchive

/-- Counters and gauges kept from progress reports. -/
structure IngestMetrics where
  pages : List ((String × PassName) × Nat) := []
  loaded : List ((String × PassName) × Nat) := []
  failed : List ((String × PassName) × Nat) := []
  skipped : List ((String × PassName) × Nat) := []
  pending : List (String × Nat) := []
  cursors : List ((String × Direction) × Int) := []
  deriving Inhabited

namespace IngestMetrics

/-- Adds `n` to the series of key `k`, creating it at zero first. -/
def bump {κ : Type} [DecidableEq κ] (xs : List (κ × Nat)) (k : κ) (n : Nat) : List (κ × Nat) :=
  match xs.find? (fun e => e.1 = k) with
  | some _ => xs.map fun e => if e.1 = k then (e.1, e.2 + n) else e
  | none => xs ++ [(k, n)]

/-- Sets the series of key `k` to `v`. -/
def setAt {κ α : Type} [DecidableEq κ] (xs : List (κ × α)) (k : κ) (v : α) : List (κ × α) :=
  match xs.find? (fun e => e.1 = k) with
  | some _ => xs.map fun e => if e.1 = k then (e.1, v) else e
  | none => xs ++ [(k, v)]

/-- Folds one progress report into the metrics. -/
def observe (m : IngestMetrics) : Progress → IngestMetrics
  | .pageFetched s p => { m with pages := bump m.pages (s, p) 1 }
  | .recordsLoaded s p n f =>
    let m := { m with loaded := bump m.loaded (s, p) n }
    if f > 0 then { m with failed := bump m.failed (s, p) f } else m
  | .recordsSkipped s p n => if n > 0 then { m with skipped := bump m.skipped (s, p) n } else m
  | .pendingSize s n => { m with pending := setAt m.pending s n }
  | .cursorSaved s d t => { m with cursors := setAt m.cursors (s, d) t }

/-- The metrics after a sequence of reports. -/
def ofProgress (reports : List Progress) : IngestMetrics := reports.foldl observe {}

/-- A count in the general float form. -/
def count (n : Nat) : String := FloatText.general (Float.ofNat n)

/-- The lines of one per-pass family. -/
def passLines (name : String) (xs : List ((String × PassName) × Nat)) : List String :=
  xs.map fun e => name ++ "\x7bpass=" ++ e.1.2.text ++ ",source=" ++ e.1.1 ++ "\x7d " ++ count e.2

/-- Every series as a line, in byte order; `clock` writes the time of a cursor save. -/
def lines (m : IngestMetrics) (clock : Int → String) : List String :=
  let all :=
    passLines "swap_ingestor_pages_fetched_total" m.pages ++
    passLines "swap_ingestor_records_loaded_total" m.loaded ++
    passLines "swap_ingestor_records_failed_total" m.failed ++
    passLines "swap_ingestor_records_skipped_total" m.skipped ++
    m.pending.map (fun e => "swap_ingestor_pending_transactions\x7bsource=" ++ e.1 ++ "\x7d " ++
      count e.2) ++
    m.cursors.map (fun e => "swap_ingestor_checkpoint_writes_timestamp_seconds\x7bdirection=" ++
      e.1.2.text ++ ",source=" ++ e.1.1 ++ "\x7d " ++ clock e.2)
  all.mergeSort (fun a b => decide (a ≤ b))

end IngestMetrics

end SwapArchive
