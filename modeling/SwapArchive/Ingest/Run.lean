import SwapArchive.Ingest.LiveTail
import SwapArchive.Ingest.Backfill
import SwapArchive.Ingest.Forward
import SwapArchive.Ingest.Reconcile
import SwapArchive.Ingest.Retry
import SwapArchive.Ingest.ChainflipSync
import SwapArchive.Ingest.ClosingPrice

/-!
# Running a pass

`PassRequest` names one run of a pass, with its source and, for reconciliation, its window;
`Ingestor.run` carries it out.
-/

namespace SwapArchive

/-- One run of an ingestion pass. -/
inductive PassRequest where
  | liveTail (kind : String)
  | backfill (kind : String)
  | forwardHistory (kind : String)
  | reconcile (kind : String) (fromUnix toUnix : Int)
  | retryPending (kind : String)
  | syncChainflip
  | closingPrice
  deriving DecidableEq, Repr

namespace Ingestor

variable {σ : Type}

/-- Carries out a pass. -/
def run (g : Ingestor) (svc : Services σ) : PassRequest → PassM σ Unit
  | .liveTail k => liveTail svc g k
  | .backfill k => backfill svc g k
  | .forwardHistory k => forwardHistory svc g k
  | .reconcile k a b => reconcile svc g k ⟨a, 0⟩ ⟨b, 0⟩
  | .retryPending k => retryPending svc g k
  | .syncChainflip => syncChainflip svc g
  | .closingPrice => closingPrice svc g

end Ingestor

end SwapArchive
