import SwapArchive.Database.Value
import SwapArchive.Swap.Record

/-!
# How rows are laid out in tables

A `RowLayout α` gives the table of rows of type `α`, its columns in order with how each is written
and read back, and the key columns. A column is found by its name or by the name of the field it
holds (`TxID` finds `tx_id`). Nothing read into a column that cannot hold it leaves the field as
it was; a column that can hold nothing reads it as absent. The layouts are those of `SwapRecord`
(sixteen columns, key `tx_id`), `ChainflipSwap` (eleven, key `swap_id`) and `ClosingPrice` (three,
key `date` and `coin_id`, table `closing_prices`).
-/

namespace SwapArchive

/-- One column of a row type. -/
structure Field (α : Type) where
  column : String
  /-- The name of the row field the column holds. -/
  fieldName : String
  /-- The value written for a row. -/
  value : α → DbValue
  /-- Puts a read value into a row. -/
  put : DbValue → α → Except String α

namespace Field

variable {α : Type}

/-- Reads a value into a column that cannot hold nothing: nothing leaves the row as it is. -/
def plain {β : Type} (read : DbValue → Except String β) (set : β → α → α) (v : DbValue) (r : α) :
    Except String α :=
  match v with
  | .null => .ok r
  | v => (read v).map (set · r)

/-- A text column. -/
def text (column fieldName : String) (get : α → String) (set : String → α → α) : Field α :=
  ⟨column, fieldName, fun r => .text (get r), plain DbValue.toText set⟩

/-- An integer column. -/
def int (column fieldName : String) (get : α → Int) (set : Int → α → α) : Field α :=
  ⟨column, fieldName, fun r => .int (get r), plain DbValue.toInt64 set⟩

/-- A double column. -/
def float (column fieldName : String) (get : α → Float) (set : Float → α → α) : Field α :=
  ⟨column, fieldName, fun r => .float (get r), plain DbValue.toFloat64 set⟩

/-- A text column that may hold nothing. -/
def optText (column fieldName : String) (get : α → Option String) (set : Option String → α → α) :
    Field α :=
  ⟨column, fieldName, fun r => ((get r).map DbValue.text).getD .null,
    fun v r => (DbValue.optional DbValue.toText v).map (set · r)⟩

/-- A double column that may hold nothing. -/
def optFloat (column fieldName : String) (get : α → Option Float) (set : Option Float → α → α) :
    Field α :=
  ⟨column, fieldName, fun r => ((get r).map DbValue.float).getD .null,
    fun v r => (DbValue.optional DbValue.toFloat64 v).map (set · r)⟩

end Field

/-- How rows of a type are kept in a table. -/
structure RowLayout (α : Type) where
  /-- The table named after the row type. -/
  typeTable : String
  /-- The row type's name, as failed readings show it. -/
  typeName : String
  fields : List (Field α)
  key : List String
  /-- The row every reading starts from. -/
  blank : α

namespace RowLayout

variable {α : Type}

/-- The column names, in order. -/
def columns (l : RowLayout α) : List String := l.fields.map Field.column

/-- The values written for a row, in column order. -/
def values (l : RowLayout α) (r : α) : List DbValue := l.fields.map fun f => f.value r

/-- The columns that are not part of the key. -/
def nonKey (l : RowLayout α) : List String := l.columns.filter (· ∉ l.key)

/-- The column with a name, else the column holding the row field of that name. -/
def lookup (l : RowLayout α) (name : String) : Option (Field α) :=
  (l.fields.find? fun f => f.column = name).orElse fun _ => l.fields.find? fun f => f.fieldName = name

end RowLayout

/-- The layout of swap records. -/
def SwapRecord.layout : RowLayout SwapRecord where
  typeTable := "swap_records"
  typeName := "*model.SwapRecord"
  key := ["tx_id"]
  blank := ⟨"", 0, "", "", "", 0, none, "", "", 0, none, "", none, none, none, none⟩
  fields := [
    .text "tx_id" "TxID" (·.txId) fun v r => { r with txId := v },
    .int "timestamp" "Timestamp" (·.timestamp) fun v r => { r with timestamp := v },
    .text "date" "Date" (·.date) fun v r => { r with date := v },
    .text "time" "Time" (·.time) fun v r => { r with time := v },
    .text "in_asset" "InAsset" (·.inAsset) fun v r => { r with inAsset := v },
    .float "in_amount" "InAmount" (·.inAmount) fun v r => { r with inAmount := v },
    .optFloat "in_amount_usd" "InAmountUSD" (·.inAmountUsd) fun v r => { r with inAmountUsd := v },
    .text "in_address" "InAddress" (·.inAddress) fun v r => { r with inAddress := v },
    .text "out_asset_1" "OutAsset1" (·.outAsset1) fun v r => { r with outAsset1 := v },
    .float "out_amount_1" "OutAmount1" (·.outAmount1) fun v r => { r with outAmount1 := v },
    .optFloat "out_amount_1_usd" "OutAmount1USD" (·.outAmount1Usd) fun v r => { r with outAmount1Usd := v },
    .text "out_address_1" "OutAddress1" (·.outAddress1) fun v r => { r with outAddress1 := v },
    .optText "out_asset_2" "OutAsset2" (·.outAsset2) fun v r => { r with outAsset2 := v },
    .optFloat "out_amount_2" "OutAmount2" (·.outAmount2) fun v r => { r with outAmount2 := v },
    .optFloat "out_amount_2_usd" "OutAmount2USD" (·.outAmount2Usd) fun v r => { r with outAmount2Usd := v },
    .optText "out_address_2" "OutAddress2" (·.outAddress2) fun v r => { r with outAddress2 := v }]

/-- The layout of Chainflip swaps. -/
def ChainflipSwap.layout : RowLayout ChainflipSwap where
  typeTable := "chainflip_swaps"
  typeName := "*model.ChainflipSwap"
  key := ["swap_id"]
  blank := ⟨"", 0, "", "", 0, 0, "", "", 0, 0, ""⟩
  fields := [
    .text "swap_id" "SwapID" (·.swapId) fun v r => { r with swapId := v },
    .int "timestamp" "Timestamp" (·.timestamp) fun v r => { r with timestamp := v },
    .text "date" "Date" (·.date) fun v r => { r with date := v },
    .text "in_asset" "InAsset" (·.inAsset) fun v r => { r with inAsset := v },
    .float "in_amount" "InAmount" (·.inAmount) fun v r => { r with inAmount := v },
    .float "in_amount_usd" "InAmountUSD" (·.inAmountUsd) fun v r => { r with inAmountUsd := v },
    .text "in_address" "InAddress" (·.inAddress) fun v r => { r with inAddress := v },
    .text "out_asset" "OutAsset" (·.outAsset) fun v r => { r with outAsset := v },
    .float "out_amount" "OutAmount" (·.outAmount) fun v r => { r with outAmount := v },
    .float "out_amount_usd" "OutAmountUSD" (·.outAmountUsd) fun v r => { r with outAmountUsd := v },
    .text "out_address" "OutAddress" (·.outAddress) fun v r => { r with outAddress := v }]

/-- The layout of closing prices. -/
def ClosingPrice.layout : RowLayout ClosingPrice where
  typeTable := "closing_prices"
  typeName := "*model.ClosingPrice"
  key := ["date", "coin_id"]
  blank := ⟨"", "", 0⟩
  fields := [
    .text "date" "Date" (·.date) fun v r => { r with date := v },
    .text "coin_id" "CoinID" (·.coinId) fun v r => { r with coinId := v },
    .float "closing_price_usd" "ClosingPriceUSD" (·.closingPriceUsd) fun v r => { r with closingPriceUsd := v }]

end SwapArchive
