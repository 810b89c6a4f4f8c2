import SwapArchive.Config.Source
import SwapArchive.Ingest.Services
import SwapArchive.Ingest.Loader
import SwapArchive.Swap.Transform

/-!
# The ingestor's settings

`Ingestor` is what the passes are set up with: the configured sources, which of them have a
Midgard feed, whether Chainflip and price feeds exist, and the paging limits. A limit of zero or
less takes its default: 500 pages per pass, a backfill flush every 20 pages, a backfill start at
Unix time 1700357476 and Chainflip pages of 30 swaps. When two sources share a kind, the later one
counts. `FeedSet` is the feeds an ingestor closes on shutdown, with the failures they close with.
-/

namespace SwapArchive

/-- Paging limits of the passes. -/
structure Ingestion where
  backfillStart : Int := 0
  backfillFlushPages : Int := 0
  maxPagesPerPass : Int := 0
  deriving Inhabited, Repr

/-- The settings the passes run with. -/
structure Ingestor where
  sources : List Source := []
  midgardFeeds : List String := []
  chainflipFeed : Bool := false
  priceFeed : Bool := false
  ingestion : Ingestion := {}
  chainflipPageSize : Int := 0
  deriving Inhabited

/-- A Midgard source ready for a pass: its settings, its transformer and its table's writer. -/
structure MidgardSource (σ : Type) where
  config : Source
  transformer : Transformer
  writer : Writer σ SwapRecord

namespace Ingestor

variable {σ : Type}

/-- The coin whose daily closing price is kept. -/
def closingCoin : String := ClosingPrice.trackedCoin

/-- The table closing prices are kept in. -/
def closingTable : String := "closing_prices"

/-- The largest number of pages one pass takes in. -/
def maxPages (g : Ingestor) : Nat :=
  if g.ingestion.maxPagesPerPass ≤ 0 then 500 else g.ingestion.maxPagesPerPass.toNat

/-- After how many pages a backfill stores what it has read. -/
def flushEvery (g : Ingestor) : Nat :=
  if g.ingestion.backfillFlushPages ≤ 0 then 20 else g.ingestion.backfillFlushPages.toNat

/-- Where a backfill without a saved cursor starts. -/
def backfillStart (g : Ingestor) : Int :=
  if g.ingestion.backfillStart ≤ 0 then 1700357476 else g.ingestion.backfillStart

/-- How many swaps one Chainflip page asks for. -/
def swapPageSize (g : Ingestor) : Nat :=
  if g.chainflipPageSize ≤ 0 then 30 else g.chainflipPageSize.toNat

/-- The Midgard source of a kind: the last configured source of that kind, if a feed serves it. -/
def midgardSource (g : Ingestor) (kind : String) : Option Source :=
  (g.sources.filter fun s =>
    s.kind ≠ Source.chainflip ∧ s.kind = kind ∧ kind ∈ g.midgardFeeds).getLast?

/-- The Chainflip source: the last configured source of kind `chainflip`. -/
def chainflipTarget (g : Ingestor) : Option Source :=
  (g.sources.filter fun s => s.kind = Source.chainflip).getLast?

/-- The lock that keeps two runs of one pass on one source apart. -/
def lockKey (kind : String) (pass : PassName) : String := kind ++ "/" ++ pass.text

/-- The writer of a source's swap-record table, under its conflict policy. -/
def recordWriter (svc : Services σ) (src : Source) : Writer σ SwapRecord :=
  ⟨src.table, SwapRecord.txId, svc.storeRecords src.table src.conflict,
    svc.storeRecord src.table src.conflict⟩

/-- The writer of the Chainflip table, under its conflict policy. -/
def swapWriter (svc : Services σ) (src : Source) : Writer σ ChainflipSwap :=
  ⟨src.table, ChainflipSwap.swapId, svc.storeSwaps src.table src.conflict,
    svc.storeSwap src.table src.conflict⟩

/-- The Midgard source of a kind, or the failure that no feed serves it. -/
def midgard (g : Ingestor) (svc : Services σ) (kind : String) : PassM σ (MidgardSource σ) :=
  match g.midgardSource kind with
  | some src => pure ⟨src, Transformer.new src, recordWriter svc src⟩
  | none => throw (.noMidgardFeed kind)

end Ingestor

/-- The feeds of an ingestor, each with the text its closing fails with (empty: it closes). -/
structure FeedSet where
  midgard : List (String × String) := []
  chainflip : Option String := none
  prices : Option String := none
  deriving Inhabited

namespace FeedSet

/-- Every feed by name (`midgard <kind>`, `chainflip`, `prices`) with its closing failure. -/
def entries (f : FeedSet) : List (String × String) :=
  f.midgard.map (fun e => ("midgard " ++ e.1, e.2)) ++
  (f.chainflip.map fun m => [("chainflip", m)]).getD [] ++
  (f.prices.map fun m => [("prices", m)]).getD []

/-- The names of the feeds closed, in byte order. -/
def closed (f : FeedSet) : List String :=
  (f.entries.map Prod.fst).mergeSort fun a b => decide (a ≤ b)

/-- Closes every feed: none if all closed, else the lines of the gathered failures, in byte
order. -/
def close (f : FeedSet) : Option (List String) :=
  let failures := (f.entries.map Prod.snd).filter (· ≠ "")
  if failures.isEmpty then none
  else some ((failures.flatMap fun m => m.splitOn "\n").mergeSort fun a b => decide (a ≤ b))

end FeedSet

end SwapArchive
