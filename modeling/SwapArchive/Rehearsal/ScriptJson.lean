import SwapArchive.Rehearsal.Run
import SwapArchive.Json.Decode

/-!
# JSON forms of rehearsal scripts

A Midgard feed script is `{latest, prev, next, tx, errors}`, maps from key to page (or failure
text); a Chainflip script `{pages, errors}` by offset; a price script `{price, error}`; a store
script `{fail_keys, fail_batch, latest, latest_error, existing_error, upsert_error,
checkpoint_read_error}`. A step is `{pass, source, from, to, cancel_after_calls, nested}`, `pass`
one of `live_tail`, `backfill`, `forward_history`, `retry_pending`, `reconcile`, `sync_chainflip`
and `closing_price`, or `{pass: "update", ...}`, which replaces scripts.
-/

namespace SwapArchive

/-- Reads a Midgard feed script. -/
def FeedScript.ofJson (j : Json) : Except String FeedScript := do
  Json.expectObject "feedScript" j
  let pages := fun k => j.field k (Json.readMap ActionsPage.ofJson) []
  pure { latest := ← pages "latest", prev := ← pages "prev", next := ← pages "next"
         tx := ← pages "tx", errors := ← j.field "errors" (Json.readMap Json.readString) [] }

/-- Reads a Chainflip script. -/
def SwapScript.ofJson (j : Json) : Except String SwapScript := do
  Json.expectObject "chainflipScript" j
  pure { pages := ← j.field "pages" (Json.readMap SwapRequests.ofJson) []
         errors := ← j.field "errors" (Json.readMap Json.readString) [] }

/-- Reads a price script. -/
def PriceScript.ofJson (j : Json) : Except String PriceScript := do
  Json.expectObject "priceScript" j
  pure { price := ← j.field "price" Json.readFloat 0, error := ← j.field "error" Json.readString "" }

/-- Reads a store script. -/
def StoreScript.ofJson (j : Json) : Except String StoreScript := do
  Json.expectObject "storeScript" j
  let str := fun (k : String) => j.field k Json.readString ""
  pure { failKeys := ← j.field "fail_keys" (Json.readList Json.readString) []
         failBatch := ← j.field "fail_batch" Json.readBool false
         latest := ← j.field "latest" (Json.readMap Json.readInt) []
         latestError := ← str "latest_error", existingError := ← str "existing_error"
         upsertError := ← str "upsert_error", cursorReadError := ← str "checkpoint_read_error" }

/-- Reads the pass of a step; `what` names the step in a failure. -/
def PassRequest.ofJson (what : String) (j : Json) : Except String PassRequest := do
  Json.expectObject "step" j
  let k ← j.field "source" Json.readString ""
  match ← j.field "pass" Json.readString "" with
  | "live_tail" => pure (.liveTail k)
  | "backfill" => pure (.backfill k)
  | "forward_history" => pure (.forwardHistory k)
  | "retry_pending" => pure (.retryPending k)
  | "reconcile" => pure (.reconcile k (← j.field "from" Json.readInt 0) (← j.field "to" Json.readInt 0))
  | "sync_chainflip" => pure .syncChainflip
  | "closing_price" => pure .closingPrice
  | p => throw ("unknown " ++ what ++ "pass " ++ p)

/-- Reads a step of a rehearsal. -/
def RehearsalStep.ofJson (j : Json) : Except String RehearsalStep := do
  Json.expectObject "step" j
  if (← j.field "pass" Json.readString "") == "update" then
    pure (.update { feeds := ← j.field "midgard" (Json.readMap FeedScript.ofJson) []
                    swapFeed := ← j.field? "chainflip" SwapScript.ofJson
                    priceFeed := ← j.field? "prices" PriceScript.ofJson
                    store := ← j.field? "store" StoreScript.ofJson })
  else
    let req ← PassRequest.ofJson "" j
    let cancel ← j.field "cancel_after_calls" Json.readInt 0
    let nested ← j.field? "nested" (PassRequest.ofJson "nested ")
    pure (.pass req (if cancel > 0 then some cancel.toNat else none) nested)

end SwapArchive
