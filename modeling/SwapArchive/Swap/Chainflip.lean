import SwapArchive.Swap.Transform
import SwapArchive.Text.Case

/-!
# From Chainflip swap requests to swaps

A swap node of the Chainflip explorer carries a request id, assets, amounts and USD values as
decimal texts (each may be missing), addresses, a status and block timestamps. `SwapNode.transform`
checks in order: the trimmed id is not empty (*missing or invalid tx id*); a trimmed, upper-cased
status `FAILED`, `REFUNDED` or `ABORTED` is final and drops the id from the pending set, and one
other than `COMPLETED` leaves it pending; the completion timestamp, or else the start one, reads
under an accepted layout (*invalid timestamp*); the source asset is there (*no in data found*),
and the destination asset and egress amount (*no out data found*); the amounts read as decimals,
missing ones being zero (*invalid amount*); a USD value that does not read counts as zero.
-/

namespace SwapArchive

/-- Pagination facts of a page of swap requests. -/
structure PageInfo where
  hasPreviousPage : Bool
  startCursor : String
  hasNextPage : Bool
  endCursor : String
  deriving Inhabited, Repr

/-- A swap request node of the Chainflip explorer. -/
structure SwapNode where
  id : Int
  swapRequestNativeId : String
  sourceAsset : String
  destAsset : String
  ingressAmount : Option String
  ingressValueUsd : Option String
  egressAmount : Option String
  egressValueUsd : Option String
  destinationAddress : String
  refundAddress : Option String
  status : String
  isInProgress : Bool
  startedBlockTimestamp : Option String
  completedBlockTimestamp : Option String
  deriving Inhabited, Repr

/-- A page of swap requests. -/
structure SwapRequests where
  pageInfo : PageInfo
  nodes : List SwapNode
  totalCount : Int
  deriving Inhabited, Repr

/-- What a swap node becomes. -/
inductive NodeOutcome where
  | swap (s : ChainflipSwap)
  | pending (id : String)
  | final (id : String)
  deriving Inhabited

namespace SwapNode

/-- Reads a node. -/
def ofJson (j : Json) : Except String SwapNode := do
  Json.expectObject "SwapNode" j
  pure {
    id := ← j.field "id" Json.readInt 0
    swapRequestNativeId := ← j.field "swapRequestNativeId" Json.readString ""
    sourceAsset := ← j.field "sourceAsset" Json.readString ""
    destAsset := ← j.field "destAsset" Json.readString ""
    ingressAmount := ← j.field? "ingressAmount" Json.readString
    ingressValueUsd := ← j.field? "ingressValueUsd" Json.readString
    egressAmount := ← j.field? "egressAmount" Json.readString
    egressValueUsd := ← j.field? "egressValueUsd" Json.readString
    destinationAddress := ← j.field "destinationAddress" Json.readString ""
    refundAddress := ← j.field? "refundAddress" Json.readString
    status := ← j.field "status" Json.readString ""
    isInProgress := ← j.field "isInProgress" Json.readBool false
    startedBlockTimestamp := ← j.field? "startedBlockTimestamp" Json.readString
    completedBlockTimestamp := ← j.field? "completedBlockTimestamp" Json.readString
  }

/-- The JSON form of a node. -/
def toJson (n : SwapNode) : Json :=
  let optStr := Json.ofOption Json.str
  .obj [("id", Json.ofInt n.id), ("swapRequestNativeId", .str n.swapRequestNativeId),
    ("sourceAsset", .str n.sourceAsset), ("destAsset", .str n.destAsset),
    ("ingressAmount", optStr n.ingressAmount), ("ingressValueUsd", optStr n.ingressValueUsd),
    ("egressAmount", optStr n.egressAmount), ("egressValueUsd", optStr n.egressValueUsd),
    ("destinationAddress", .str n.destinationAddress), ("refundAddress", optStr n.refundAddress),
    ("status", .str n.status), ("isInProgress", .bool n.isInProgress),
    ("startedBlockTimestamp", optStr n.startedBlockTimestamp),
    ("completedBlockTimestamp", optStr n.completedBlockTimestamp)]

/-- Upper case for status words. -/
def upperChar (c : Char) : Char := Case.upper c

/-- Statuses after which a request never yields a swap. -/
def terminalStatuses : List String := ["FAILED", "REFUNDED", "ABORTED"]

/-- The layouts a block timestamp may take, tried in order. -/
def timestampLayouts : List Layout :=
  [Layout.rfc3339Nano, Layout.isoLocal, Layout.spacedColonZone, Layout.spacedHourZone]

/-- Reads a block timestamp under the first layout that accepts it. -/
def readTimestamp (s : String) : Option Instant :=
  timestampLayouts.findSome? fun l =>
    match l.read s with
    | .ok t => some t
    | .error _ => none

/-- A decimal text that may be missing or empty, both meaning zero. -/
def optionalDecimal : Option String → Except Decimal.ParseFailure Decimal
  | none => .ok Decimal.zero
  | some "" => .ok Decimal.zero
  | some s => Decimal.parse s

/-- Transforms a node, as the module doc says. -/
def transform (n : SwapNode) : Except TransformError NodeOutcome :=
  let id := Clean.trim n.swapRequestNativeId
  let fail := fun (f : TransformFault) =>
    (Except.error ⟨Source.chainflip, id, f⟩ : Except TransformError NodeOutcome)
  if id = "" then .error ⟨Source.chainflip, "", .missingTxId⟩
  else
    let status := String.map upperChar (Clean.trim n.status)
    if status ∈ terminalStatuses then .ok (.final id)
    else if status ≠ "COMPLETED" then .ok (.pending id)
    else
      match n.completedBlockTimestamp.orElse fun _ => n.startedBlockTimestamp with
      | none => fail .invalidTimestamp
      | some stamp =>
        match readTimestamp stamp with
        | none => fail .invalidTimestamp
        | some ts =>
          if n.sourceAsset = "" then fail .missingInData
          else if n.destAsset = "" ∨ n.egressAmount.isNone then fail .missingOutData
          else
            match optionalDecimal n.ingressAmount, optionalDecimal n.egressAmount with
            | .error _, _ => fail .invalidAmount
            | _, .error _ => fail .invalidAmount
            | .ok inAmount, .ok outAmount =>
              let usd := fun (v : Option String) => match optionalDecimal v with
                | .ok d => d.toFloat
                | .error _ => 0
              .ok (.swap {
                swapId := Clean.sanitize id, timestamp := ts.sec
                date := TimeText.date (Civil.ofInstant ts 0)
                inAsset := Clean.sanitize n.sourceAsset, inAmount := inAmount.toFloat
                inAmountUsd := usd n.ingressValueUsd
                inAddress := Clean.sanitize (n.refundAddress.getD "")
                outAsset := Clean.sanitize n.destAsset, outAmount := outAmount.toFloat
                outAmountUsd := usd n.egressValueUsd
                outAddress := Clean.sanitize n.destinationAddress })

end SwapNode

namespace SwapRequests

/-- Reads a page of swap requests. -/
def ofJson (j : Json) : Except String SwapRequests := do
  Json.expectObject "SwapRequests" j
  let info := (j.get? "pageInfo").getD (.obj [])
  Json.expectObject "PageInfo" info
  let edges ← j.field "edges" (Json.readList fun e => do
    Json.expectObject "Edge" e
    match e.get? "node" with
    | some n => SwapNode.ofJson n
    | none => SwapNode.ofJson (.obj [])) []
  pure {
    pageInfo := {
      hasPreviousPage := ← info.field "hasPreviousPage" Json.readBool false
      startCursor := ← info.field "startCursor" Json.readString ""
      hasNextPage := ← info.field "hasNextPage" Json.readBool false
      endCursor := ← info.field "endCursor" Json.readString "" }
    nodes := edges
    totalCount := ← j.field "totalCount" Json.readInt 0
  }

/-- The JSON form of a page. -/
def toJson (p : SwapRequests) : Json :=
  .obj [("pageInfo", .obj [("hasPreviousPage", .bool p.pageInfo.hasPreviousPage),
      ("startCursor", .str p.pageInfo.startCursor), ("hasNextPage", .bool p.pageInfo.hasNextPage),
      ("endCursor", .str p.pageInfo.endCursor)]),
    ("edges", .arr (p.nodes.map fun n => .obj [("node", n.toJson)])),
    ("totalCount", Json.ofInt p.totalCount)]

end SwapRequests

end SwapArchive
