import SwapArchive.Swap.Action
import SwapArchive.Swap.Asset
import SwapArchive.Swap.Record
import SwapArchive.Swap.Units
import SwapArchive.Config.Source

/-!
# From Midgard actions to swap records

`Transformer.transform` turns one action into a stored record, a pending id, or a rejection that
names the source kind and, once read, the cleaned id; the first failing check decides. The action
needs an incoming leg (*no in data found*) whose first has a non-empty transaction id (*missing
or invalid tx id*), cleaned with `Clean.sanitize`; an action whose status is not exactly `success`
is pending under that id. Then the timestamp reads; the incoming leg has a coin whose amount reads
and whose asset has a name; there is an outgoing leg (*no out data found*), taken last first as
primary and secondary, which change places when only the primary pays the settlement asset. With
enrichment on, the metadata's USD prices give the USD values of the incoming and primary amounts.
-/

namespace SwapArchive

/-- Why an event read from a feed cannot become a row. -/
inductive TransformFault where
  | missingTxId
  | missingInData
  | missingOutData
  | missingCoin
  | missingAssetName
  | invalidAmount
  | invalidTimestamp
  deriving DecidableEq, Repr

namespace TransformFault

/-- The message of a fault. -/
def message : TransformFault → String
  | .missingTxId => "missing or invalid tx id"
  | .missingInData => "no in data found"
  | .missingOutData => "no out data found"
  | .missingCoin => "missing coin"
  | .missingAssetName => "error parsing asset name"
  | .invalidAmount => "invalid amount"
  | .invalidTimestamp => "invalid timestamp"

end TransformFault

/-- A rejected event: the source kind, the transaction id when known, and the fault. -/
structure TransformError where
  source : String
  txId : String
  fault : TransformFault
  deriving DecidableEq, Repr

namespace TransformError

/-- The message of a rejection. -/
def message (e : TransformError) : String :=
  if e.txId = "" then e.source ++ ": failed to transform record: " ++ e.fault.message
  else e.source ++ ": failed to transform record " ++ e.txId ++ ": " ++ e.fault.message

end TransformError

/-- What an accepted action becomes: a record, or a pending id (possibly empty, when the id
cleans to nothing). -/
inductive ActionOutcome where
  | record (r : SwapRecord)
  | pending (id : String)
  deriving Inhabited

/-- The transformer of one Midgard source, its defaults filled in. -/
structure Transformer where
  source : Source

/-- A leg read into an asset name, an amount and an address. -/
structure LegValue where
  asset : String
  amount : Decimal
  address : String

/-- The result of transforming a page: the records, the pending ids in order, and the number of
rejected actions. -/
structure PageOutcome where
  records : List SwapRecord
  pending : List String
  skipped : Nat
  deriving Inhabited

namespace Transformer

/-- The transformer of a source; settlement asset, decimals and asset style get their defaults
(`THOR.RUNE`, 8, pool) when unset. -/
def new (src : Source) : Transformer :=
  ⟨{ src with
    settlementAsset := if src.settlementAsset = "" then Source.nativeSettlementAsset else src.settlementAsset
    decimals := if src.decimals = 0 then Source.thorchainDecimals else src.decimals
    nameStyle := if src.nameStyle = "" then Source.stylePool else src.nameStyle }⟩

/-- Reads a leg: its first coin's amount and asset name, and its address. -/
def readLeg (t : Transformer) (l : Leg) : Except TransformFault LegValue :=
  match l.coins with
  | [] => .error .missingCoin
  | coin :: _ =>
    match Units.standard coin.amount t.source.decimals with
    | .error _ => .error .invalidAmount
    | .ok amount =>
      match Asset.name coin.asset t.source.nameStyle with
      | none => .error .missingAssetName
      | some asset => .ok ⟨Clean.sanitize asset, amount, Clean.sanitize l.address⟩

/-- The USD value of an amount at a price text, when the price reads. -/
def usdValue (amount : Decimal) (price : String) : Option Float :=
  match Decimal.parse price with
  | .ok p => some (amount.mul p).toFloat
  | .error _ => none

/-- Transforms one action, as the module doc says. -/
def transform (t : Transformer) (a : Action) : Except TransformError ActionOutcome :=
  let fail := fun (id : String) (f : TransformFault) =>
    (Except.error ⟨t.source.kind, id, f⟩ : Except TransformError ActionOutcome)
  match a.inLegs with
  | [] => fail "" .missingInData
  | first :: _ =>
    match first.txId with
    | none => fail "" .missingTxId
    | some "" => fail "" .missingTxId
    | some raw =>
      let txId := Clean.sanitize raw
      if a.status ≠ "success" then .ok (.pending txId)
      else
        match Units.nanoTimestamp a.date with
        | .error _ => fail txId .invalidTimestamp
        | .ok ts =>
          match t.readLeg first with
          | .error f => fail txId f
          | .ok inLeg =>
            match a.outLegs.reverse with
            | [] => fail txId .missingOutData
            | out1 :: outs =>
              match t.readLeg out1 with
              | .error f => fail txId f
              | .ok primary =>
                let legs : Except TransformFault (LegValue × Option LegValue) :=
                  match outs with
                  | [] => .ok (primary, none)
                  | out2 :: _ =>
                    match t.readLeg out2 with
                    | .error f => .error f
                    | .ok second =>
                      let settle := t.source.settlementAsset
                      if primary.asset = settle ∧ second.asset ≠ settle then .ok (second, some primary)
                      else .ok (primary, some second)
                match legs with
                | .error f => fail txId f
                | .ok (primary, second) =>
                  let (shown, clock) := Units.displayDateTime ts
                  match Units.sqlDate shown with
                  | .error _ => fail txId .invalidTimestamp
                  | .ok date =>
                    let rec0 : SwapRecord := {
                      txId := txId, timestamp := ts.sec, date := date, time := clock
                      inAsset := inLeg.asset, inAmount := inLeg.amount.toFloat, inAmountUsd := none
                      inAddress := inLeg.address, outAsset1 := primary.asset
                      outAmount1 := primary.amount.toFloat, outAmount1Usd := none
                      outAddress1 := primary.address, outAsset2 := second.map (·.asset)
                      outAmount2 := second.map (·.amount.toFloat), outAmount2Usd := none
                      outAddress2 := second.map (·.address) }
                    let rec1 := match t.source.enrich, a.swapMeta with
                      | true, some m =>
                        { rec0 with inAmountUsd := usdValue inLeg.amount m.inPriceUsd
                                    outAmount1Usd := usdValue primary.amount m.outPriceUsd }
                      | _, _ => rec0
                    .ok (.record rec1)

/-- The message of the runtime failure met when a page holds an accepted action whose id
cleaned to nothing: it is neither pending nor a record. -/
def emptyIdFailure : String := "runtime error: invalid memory address or nil pointer dereference"

/-- Transforms a page: rejected actions are counted, pending ids and records kept in order. An
accepted action without record and without id stops the page with `emptyIdFailure`. -/
def transformPage (t : Transformer) (actions : List Action) : Except String PageOutcome :=
  actions.foldlM (fun (acc : PageOutcome) a =>
    match t.transform a with
    | .error _ => .ok { acc with skipped := acc.skipped + 1 }
    | .ok (.pending "") => .error emptyIdFailure
    | .ok (.pending id) => .ok { acc with pending := acc.pending ++ [id] }
    | .ok (.record r) => .ok { acc with records := acc.records ++ [r] }) ⟨[], [], 0⟩

end Transformer

end SwapArchive
