import SwapArchive.Ingest.Steps

/-!
# Retrying pending ids

The retry pass drains a source's pending set and looks each id up by transaction id, in sorted
order. An id whose lookup finds nothing, or an event still pending, or a record the store refused,
stays pending; otherwise an id with a stored record is resolved, and one whose events all failed
to transform is dropped. The ids that stay pending go back into the set; if a lookup fails, that
id and every later one go back too, and the pass ends with the feed's failure. The pass reports
the numbers resolved and dropped, and the set's size.
-/

namespace SwapArchive

namespace Ingestor

open PassM

variable {σ : Type} (svc : Services σ)

/-- The running count of a retry pass. -/
structure RetryTally where
  /-- Ids that stay pending, in order. -/
  still : List String
  resolved : Nat
  dropped : Nat

/-- What the events of one id came to. -/
structure RetryVerdict where
  pendingAgain : Bool
  loadedAny : Bool
  malformed : Nat

/-- Transforms and stores the events of one id. An event accepted without record and without
id stops the pass. -/
def judge (src : MidgardSource σ) : List Action → RetryVerdict → PassM σ RetryVerdict
  | [], v => pure v
  | a :: rest, v =>
    match src.transformer.transform a with
    | .error _ => judge src rest { v with malformed := v.malformed + 1 }
    | .ok (.pending "") => throw (.crash Transformer.emptyIdFailure)
    | .ok (.pending _) => judge src rest { v with pendingAgain := true }
    | .ok (.record r) => do
      match ← ExceptT.lift (src.writer.loadOne r) with
      | .error _ => judge src rest { v with pendingAgain := true }
      | .ok () => judge src rest { v with loadedAny := true }

/-- Where an id goes after its events are judged. -/
def RetryTally.settle (t : RetryTally) (id : String) (v : RetryVerdict) : RetryTally :=
  if v.pendingAgain then { t with still := t.still ++ [id] }
  else if v.loadedAny then { t with resolved := t.resolved + 1 }
  else if v.malformed > 0 then { t with dropped := t.dropped + 1 }
  else t

/-- Looks up each id in turn. -/
def retryEach (src : MidgardSource σ) : List String → RetryTally → PassM σ RetryTally
  | [], t => pure t
  | id :: rest, t => do
    let kind := src.config.kind
    match ← perform (svc.fetchPage kind (.byTx id)) with
    | .error m => do
      modify (svc.trackPending kind (t.still ++ id :: rest))
      reportPending svc kind
      throw (.remote m)
    | .ok page =>
      if page.items.isEmpty then retryEach src rest { t with still := t.still ++ [id] }
      else do
        let v ← judge src page.items ⟨false, false, 0⟩
        retryEach src rest (t.settle id v)

/-- The retry pass of a source. A run while another is going on does nothing. -/
def retryPending (g : Ingestor) (kind : String) : PassM σ Unit := do
  let src ← g.midgard svc kind
  exclusive svc (lockKey kind .pendingRetry) do
    let ids ← perform (svc.drainPending kind)
    if ids.isEmpty then reportPending svc kind
    else do
      let t ← retryEach svc src ids ⟨[], 0, 0⟩
      modify (svc.trackPending kind t.still)
      report svc (.recordsLoaded kind .pendingRetry t.resolved 0)
      if t.dropped > 0 then report svc (.recordsSkipped kind .pendingRetry t.dropped)
      reportPending svc kind

end Ingestor

end SwapArchive
