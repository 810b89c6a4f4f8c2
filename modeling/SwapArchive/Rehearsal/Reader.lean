import SwapArchive.Http.Swaps

/-!
# A scripted reader

`ScriptedReader` answers the read endpoints from a script and logs what they asked:

* a listing answers the scripted swap records or Chainflip swaps, whatever the query, or fails
  with the scripted text;
* a closing price lookup answers the scripted price, fails with the scripted text, or finds
  nothing when there is neither;
* every query, table, lookup and recorded read is kept, in order.
-/

namespace SwapArchive

/-- What a scripted reader answers. -/
structure ReaderScript where
  rows : List SwapRecord := []
  swapRows : List ChainflipSwap := []
  findError : String := ""
  price : Option ClosingPrice := none
  priceError : String := ""
  deriving Inhabited

/-- A scripted reader: its script and what it was asked. -/
structure ScriptedReader where
  script : ReaderScript := {}
  queries : List SwapQuery := []
  tables : List String := []
  lookups : List (String × String) := []
  metrics : List QueryMetric := []
  deriving Inhabited

namespace ScriptedReader

/-- Logs a listing and answers its rows, or the scripted failure. -/
def find {α : Type} (rows : ReaderScript → List α) (table : String) (q : SwapQuery) (r : ScriptedReader) :
    Except String (List α) × ScriptedReader :=
  let r := { r with queries := r.queries ++ [q], tables := r.tables ++ [table] }
  if r.script.findError = "" then (.ok (rows r.script), r) else (.error r.script.findError, r)

/-- The reads of a scripted reader. -/
def reader : SwapReader ScriptedReader where
  findRecords := find ReaderScript.rows
  findSwaps := find ReaderScript.swapRows
  priceOn := fun coin date r =>
    let r := { r with lookups := r.lookups ++ [(coin, date)] }
    if r.script.priceError ≠ "" then (.failed r.script.priceError, r)
    else match r.script.price with
      | some p => (.found p, r)
      | none => (.missing, r)
  record := fun m r => { r with metrics := r.metrics ++ [m] }

end ScriptedReader

end SwapArchive
