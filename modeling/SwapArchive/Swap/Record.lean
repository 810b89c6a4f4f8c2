import SwapArchive.Json.Print
import SwapArchive.Json.Decode
import SwapArchive.Number.FloatText

/-!
# Stored rows

The rows the service keeps: `SwapRecord`, one settled swap of a Midgard source with an optional
second outgoing leg; `ChainflipSwap`, one completed Chainflip swap; `ClosingPrice`, the USD
closing price of a coin on a day. Each has a JSON form, used by the HTTP answers and when rows
are given as data: the fields in order under snake-case names, the optional fields of a swap
record left out when absent, floats written with `FloatText.json`.
-/

namespace SwapArchive

/-- A settled swap of a Midgard source. -/
structure SwapRecord where
  txId : String
  timestamp : Int
  date : String
  time : String
  inAsset : String
  inAmount : Float
  inAmountUsd : Option Float
  inAddress : String
  outAsset1 : String
  outAmount1 : Float
  outAmount1Usd : Option Float
  outAddress1 : String
  outAsset2 : Option String
  outAmount2 : Option Float
  outAmount2Usd : Option Float
  outAddress2 : Option String
  deriving Inhabited

/-- A completed Chainflip swap. -/
structure ChainflipSwap where
  swapId : String
  timestamp : Int
  date : String
  inAsset : String
  inAmount : Float
  inAmountUsd : Float
  inAddress : String
  outAsset : String
  outAmount : Float
  outAmountUsd : Float
  outAddress : String
  deriving Inhabited

/-- The closing price of a coin on a day. -/
structure ClosingPrice where
  date : String
  coinId : String
  closingPriceUsd : Float
  deriving Inhabited

namespace Json

/-- A double as a JSON number; JSON has no number for the infinities and the not-a-number, which
are written as the strings `Infinity`, `-Infinity` and `NaN`. -/
def ofFloat (x : Float) : Json :=
  if x.isNaN then .str "NaN"
  else if x.isInf then .str (if x > 0 then "Infinity" else "-Infinity")
  else .num (FloatText.json x)

end Json

namespace SwapRecord

/-- Does the record have a second outgoing leg? -/
def hasSecondLeg (r : SwapRecord) : Bool := r.outAsset2.isSome

/-- The JSON form, absent optional fields left out. -/
def toJson (r : SwapRecord) : Json :=
  let opt := fun (k : String) (v : Option Json) => match v with
    | some j => [(k, j)]
    | none => []
  .obj <|
    [("tx_id", .str r.txId), ("timestamp", Json.ofInt r.timestamp), ("date", .str r.date),
      ("time", .str r.time), ("in_asset", .str r.inAsset), ("in_amount", Json.ofFloat r.inAmount)] ++
    opt "in_amount_usd" (r.inAmountUsd.map Json.ofFloat) ++
    [("in_address", .str r.inAddress), ("out_asset_1", .str r.outAsset1),
      ("out_amount_1", Json.ofFloat r.outAmount1)] ++
    opt "out_amount_1_usd" (r.outAmount1Usd.map Json.ofFloat) ++
    [("out_address_1", .str r.outAddress1)] ++
    opt "out_asset_2" (r.outAsset2.map .str) ++
    opt "out_amount_2" (r.outAmount2.map Json.ofFloat) ++
    opt "out_amount_2_usd" (r.outAmount2Usd.map Json.ofFloat) ++
    opt "out_address_2" (r.outAddress2.map .str)

/-- The JSON form of a stored row: every column, absent values as `null`, and whether the
record has a second leg. -/
def toRowJson (r : SwapRecord) : Json :=
  .obj [("tx_id", .str r.txId), ("timestamp", Json.ofInt r.timestamp), ("date", .str r.date),
    ("time", .str r.time), ("in_asset", .str r.inAsset), ("in_amount", Json.ofFloat r.inAmount),
    ("in_amount_usd", Json.ofOption Json.ofFloat r.inAmountUsd), ("in_address", .str r.inAddress),
    ("out_asset_1", .str r.outAsset1), ("out_amount_1", Json.ofFloat r.outAmount1),
    ("out_amount_1_usd", Json.ofOption Json.ofFloat r.outAmount1Usd), ("out_address_1", .str r.outAddress1),
    ("out_asset_2", Json.ofOption .str r.outAsset2), ("out_amount_2", Json.ofOption Json.ofFloat r.outAmount2),
    ("out_amount_2_usd", Json.ofOption Json.ofFloat r.outAmount2Usd),
    ("out_address_2", Json.ofOption .str r.outAddress2), ("has_second_leg", .bool r.hasSecondLeg)]

/-- Reads a record from its JSON form. -/
def ofJson (j : Json) : Except String SwapRecord := do
  Json.expectObject "SwapRecord" j
  pure {
    txId := ← j.field "tx_id" Json.readString ""
    timestamp := ← j.field "timestamp" Json.readInt 0
    date := ← j.field "date" Json.readString ""
    time := ← j.field "time" Json.readString ""
    inAsset := ← j.field "in_asset" Json.readString ""
    inAmount := ← j.field "in_amount" Json.readFloat 0
    inAmountUsd := ← j.field? "in_amount_usd" Json.readFloat
    inAddress := ← j.field "in_address" Json.readString ""
    outAsset1 := ← j.field "out_asset_1" Json.readString ""
    outAmount1 := ← j.field "out_amount_1" Json.readFloat 0
    outAmount1Usd := ← j.field? "out_amount_1_usd" Json.readFloat
    outAddress1 := ← j.field "out_address_1" Json.readString ""
    outAsset2 := ← j.field? "out_asset_2" Json.readString
    outAmount2 := ← j.field? "out_amount_2" Json.readFloat
    outAmount2Usd := ← j.field? "out_amount_2_usd" Json.readFloat
    outAddress2 := ← j.field? "out_address_2" Json.readString
  }

end SwapRecord

namespace ChainflipSwap

/-- The JSON form. -/
def toJson (s : ChainflipSwap) : Json :=
  .obj [("swap_id", .str s.swapId), ("timestamp", Json.ofInt s.timestamp), ("date", .str s.date),
    ("in_asset", .str s.inAsset), ("in_amount", Json.ofFloat s.inAmount),
    ("in_amount_usd", Json.ofFloat s.inAmountUsd), ("in_address", .str s.inAddress),
    ("out_asset", .str s.outAsset), ("out_amount", Json.ofFloat s.outAmount),
    ("out_amount_usd", Json.ofFloat s.outAmountUsd), ("out_address", .str s.outAddress)]

/-- Reads a swap from its JSON form. -/
def ofJson (j : Json) : Except String ChainflipSwap := do
  Json.expectObject "ChainflipSwap" j
  pure {
    swapId := ← j.field "swap_id" Json.readString ""
    timestamp := ← j.field "timestamp" Json.readInt 0
    date := ← j.field "date" Json.readString ""
    inAsset := ← j.field "in_asset" Json.readString ""
    inAmount := ← j.field "in_amount" Json.readFloat 0
    inAmountUsd := ← j.field "in_amount_usd" Json.readFloat 0
    inAddress := ← j.field "in_address" Json.readString ""
    outAsset := ← j.field "out_asset" Json.readString ""
    outAmount := ← j.field "out_amount" Json.readFloat 0
    outAmountUsd := ← j.field "out_amount_usd" Json.readFloat 0
    outAddress := ← j.field "out_address" Json.readString ""
  }

end ChainflipSwap

namespace ClosingPrice

/-- The coin whose daily closing price is kept. -/
def trackedCoin : String := "bitcoin"

/-- The JSON form. -/
def toJson (p : ClosingPrice) : Json :=
  .obj [("date", .str p.date), ("coin_id", .str p.coinId),
    ("closing_price_usd", Json.ofFloat p.closingPriceUsd)]

/-- Reads a price from its JSON form. -/
def ofJson (j : Json) : Except String ClosingPrice := do
  Json.expectObject "ClosingPrice" j
  pure {
    date := ← j.field "date" Json.readString ""
    coinId := ← j.field "coin_id" Json.readString ""
    closingPriceUsd := ← j.field "closing_price_usd" Json.readFloat 0
  }

end ClosingPrice

end SwapArchive
