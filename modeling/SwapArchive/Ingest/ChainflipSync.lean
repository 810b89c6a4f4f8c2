import SwapArchive.Ingest.Steps

/-!
# Chainflip sync

The Chainflip sync pages through the explorer's swap requests, newest first, and stores the
completed swaps of each page as a batch. It first takes the whole Chainflip pending set out as the
*outstanding* ids. On each page a terminal node (failed, refunded, aborted) and, once handed to
the store, a completed swap leave the outstanding ids; an in-flight node joins them; an unreadable
node is skipped. The walk stops at an empty or last page, after the page limit, or at a page that
brings nothing new once nothing is outstanding. However the pass ends, the outstanding ids go back
into the pending set and its size is reported.
-/

namespace SwapArchive

namespace Ingestor

open PassM

variable {σ : Type} (svc : Services σ)

/-- A page of nodes sorted by what they are. -/
structure NodeSorting where
  swaps : List ChainflipSwap
  inFlight : List String
  terminal : List String
  skipped : Nat

/-- Sorts a page's nodes, keeping their order within each kind. -/
def sortNodes : List SwapNode → NodeSorting → NodeSorting
  | [], s => s
  | n :: rest, s =>
    match n.transform with
    | .error _ => sortNodes rest { s with skipped := s.skipped + 1 }
    | .ok (.final id) => sortNodes rest { s with terminal := s.terminal ++ [id] }
    | .ok (.pending id) => sortNodes rest { s with inFlight := s.inFlight ++ [id] }
    | .ok (.swap w) => sortNodes rest { s with swaps := s.swaps ++ [w] }

/-- Adds ids to a set held as a list without repeats. -/
def addIds (out ids : List String) : List String :=
  ids.foldl (fun acc id => if id ∈ acc then acc else acc ++ [id]) out

/-- Takes ids out of a set held as a list. -/
def removeIds (out ids : List String) : List String := out.filter fun id => id ∉ ids

/-- How one page of the sync ended. -/
inductive SyncStep where
  /-- The walk is over. -/
  | stop (out : List String)
  /-- The walk goes on at an offset. -/
  | more (out : List String) (offset : Nat)
  /-- The pass failed; the outstanding ids are those at the point of failure. -/
  | failed (out : List String) (e : PassError)

/-- Takes in the page at `offset`. -/
def syncPage (target : Source) (size offset : Nat) (out : List String) : StateM σ SyncStep := do
  let kind := Source.chainflip
  match ← modifyGet (svc.fetchSwaps size offset) with
  | .error m => pure (.failed out (.remote m))
  | .ok page =>
    if page.nodes.isEmpty then pure (.stop out)
    else do
      modify (svc.report (.pageFetched kind .chainflipSync))
      let s := sortNodes page.nodes ⟨[], [], [], 0⟩
      let out := removeIds out s.terminal
      if s.skipped > 0 then modify (svc.report (.recordsSkipped kind .chainflipSync s.skipped))
      let ids := s.swaps.map ChainflipSwap.swapId
      match ← modifyGet (svc.existingSwapIds target.table ids) with
      | .error c => pure (.failed out (.database ⟨"existing ids", target.table, c⟩))
      | .ok existing => do
        let r ← (loadBatch svc kind (swapWriter svc target) .chainflipSync s.swaps).run
        match r with
        | .error e => pure (.failed out e)
        | .ok () =>
          let out := addIds (removeIds out ids) s.inFlight
          let allKnown := s.inFlight.isEmpty ∧ existing.length = s.swaps.length
          if !page.pageInfo.hasNextPage ∨ (allKnown ∧ out.isEmpty) then pure (.stop out)
          else pure (.more out (offset + page.nodes.length))

/-- Takes in pages from `offset` on, `left` pages at most. -/
def syncWalk (target : Source) (size : Nat) :
    Nat → Nat → List String → StateM σ (List String × Except PassError Unit)
  | 0, _, out => pure (out, .ok ())
  | left + 1, offset, out => do
    match ← syncPage svc target size offset out with
    | .stop out => pure (out, .ok ())
    | .failed out e => pure (out, .error e)
    | .more out next => syncWalk target size left next out

/-- The Chainflip sync. A run while another is going on does nothing. -/
def syncChainflip (g : Ingestor) : PassM σ Unit :=
  match g.chainflipTarget, g.chainflipFeed with
  | some target, true =>
    let kind := Source.chainflip
    exclusive svc (lockKey kind .chainflipSync) do
      let drained ← perform (svc.drainPending kind)
      let (out, r) ← ExceptT.lift (syncWalk svc target g.swapPageSize g.maxPages 0 drained)
      modify (svc.trackPending kind out)
      reportPending svc kind
      match r with
      | .ok () => pure ()
      | .error e => throw e
  | _, _ => throw .noChainflipSource

end Ingestor

end SwapArchive
