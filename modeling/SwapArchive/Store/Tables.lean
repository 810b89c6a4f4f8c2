import SwapArchive.Database.Transaction
import SwapArchive.Store.Render
import SwapArchive.Store.Scan
import SwapArchive.Config.Source

/-!
# The stored tables

`create` and `createBatch` insert rows under a conflict policy: with `overwrite` a held key takes
every other column of the new row, otherwise the new row is dropped; a batch goes in chunks of
`batchSize` rows, stopping at the first refused one. `find` lists rows matching a `SwapQuery`
(search text in the search columns, a date, an allowed ordering column or `timestamp`, a limit and
offset counted only when positive); `first` reads a key's row; `latestTimestamp` the largest
timestamp, absent for an empty table; `existingIds` which Chainflip swap ids a table holds;
`upsertPrice` and `priceOn` keep and read closing prices. Database failures are answered as their
text.
-/

namespace SwapArchive

/-- What a listing asks for. -/
structure SwapQuery where
  sortBy : String := ""
  desc : Bool := false
  limit : Int := 0
  offset : Int := 0
  search : String := ""
  date : String := ""
  deriving Inhabited

/-- What a table's listings search in and may order by. -/
structure SearchRules where
  searchColumns : List String
  sortable : List String

/-- The searches of swap record tables. -/
def SwapRecord.searchRules : SearchRules :=
  ⟨["tx_id", "in_address", "out_address_1", "out_address_2"],
    ["timestamp", "date", "tx_id", "in_asset", "in_amount", "out_asset_1", "out_amount_1"]⟩

/-- The searches of Chainflip tables. -/
def ChainflipSwap.searchRules : SearchRules :=
  ⟨["swap_id", "in_address", "out_address"],
    ["timestamp", "date", "swap_id", "in_asset", "in_amount", "out_asset", "out_amount"]⟩

namespace SearchRules

/-- May a listing be ordered by this column? -/
def sortable? (r : SearchRules) (column : String) : Bool := column ∈ r.sortable

/-- The ordering column of a listing: the one asked for if allowed, else `timestamp`. -/
def sortColumn (r : SearchRules) (column : String) : String :=
  if r.sortable? column then column else "timestamp"

end SearchRules

namespace TableStore

variable {δ α : Type}

/-- The most rows one insert statement carries. -/
def batchSize : Nat := 500

/-- Splits rows into chunks of `n` rows, the last holding what is left, making at most `fuel`
cuts. -/
def chunksUpTo (n : Nat) : Nat → List α → List (List α)
  | 0, xs => [xs]
  | fuel + 1, xs => if xs.length ≤ n then [xs] else xs.take n :: chunksUpTo n fuel (xs.drop n)

/-- Splits rows into chunks of at most `n` rows, in order. Each cut takes at least one row, so as
many cuts as rows always suffice. -/
def chunks (n : Nat) (xs : List α) : List (List α) :=
  if n = 0 then [xs] else chunksUpTo n xs.length xs

/-- The columns a held key takes from a new row under a conflict policy. -/
def conflictUpdates (l : RowLayout α) (policy : String) : List String :=
  if policy = Source.conflictOverwrite then l.nonKey else []

/-- Inserts rows in one statement. -/
def insert (h : Handle δ) (l : RowLayout α) (t : TableRef) (updates : List String) (rows : List α) :
    δ → Except String Unit × δ :=
  let s := (Insert.mk t l.columns (rows.map l.values) l.key updates).render
  h.exec s.text s.args

/-- Inserts chunks in order, stopping at the first refused one. -/
def insertChunks (h : Handle δ) (l : RowLayout α) (t : TableRef) (updates : List String) :
    List (List α) → δ → Except String Unit × δ
  | [], d => (.ok (), d)
  | c :: cs, d =>
    match insert h l t updates c d with
    | (.ok (), d) => insertChunks h l t updates cs d
    | (.error e, d) => (.error e, d)

/-- Inserts one row. -/
def create (h : Handle δ) (l : RowLayout α) (table policy : String) (r : α) : δ → Except String Unit × δ :=
  insert h l (TableRef.ofName l.typeTable table) (conflictUpdates l policy) [r]

/-- Inserts rows in chunks; no row, no statement. -/
def createBatch (h : Handle δ) (l : RowLayout α) (table policy : String) (rs : List α) :
    δ → Except String Unit × δ :=
  if rs.isEmpty then fun d => (.ok (), d)
  else insertChunks h l (TableRef.ofName l.typeTable table) (conflictUpdates l policy) (chunks batchSize rs)

/-- Runs a query and reads its result. -/
def ask {β : Type} (h : Handle δ) (q : Select) (read : ResultSet → Except String β) (d : δ) :
    Except String β × δ :=
  let s := q.render
  match h.query s.text s.args d with
  | (.error e, d) => (.error e, d)
  | (.ok rs, d) => (read rs, d)

/-- The query of a listing. -/
def findQuery (l : RowLayout α) (rules : SearchRules) (table : String) (q : SwapQuery) : Select :=
  let pattern := DbValue.text ("%" ++ q.search ++ "%")
  let search : List Condition := if q.search = "" then [] else
    [⟨" OR ".intercalate (rules.searchColumns.map (· ++ " LIKE ?")), rules.searchColumns.map fun _ => .one pattern⟩]
  let date : List Condition := if q.date = "" then [] else [⟨"date = ?", [.one (.text q.date)]⟩]
  { table := TableRef.ofName l.typeTable table
    conditions := search ++ date
    order := some (orderBy (rules.sortColumn q.sortBy) q.desc)
    limit := if q.limit > 0 then some q.limit else none
    offset := if q.offset > 0 then some q.offset else none }

/-- Lists the rows matching a query. -/
def find (h : Handle δ) (l : RowLayout α) (rules : SearchRules) (table : String) (q : SwapQuery) :
    δ → Except String (List α) × δ :=
  ask h (findQuery l rules table q) (Scan.all l)

/-- Reads the first row matching a condition, ordered by the first key column. -/
def first (h : Handle δ) (l : RowLayout α) (table : String) (c : Condition) : δ → Except String α × δ :=
  let t := TableRef.ofName l.typeTable table
  ask h { table := t, conditions := [c], order := some (t.column (l.key.headD "")), limit := some 1 }
    (Scan.first l)

end TableStore

namespace SwapStore

variable {δ : Type}

/-- Reads the record of a transaction id. -/
def getByTxId (h : Handle δ) (table txId : String) : δ → Except String SwapRecord × δ :=
  TableStore.first h SwapRecord.layout table ⟨"tx_id = ?", [.one (.text txId)]⟩

/-- Reads the largest timestamp of a table, absent when the table is empty. -/
def latestTimestamp (h : Handle δ) (table : String) : δ → Except String (Option Int) × δ :=
  TableStore.ask h { columns := "MAX(timestamp)", table := TableRef.ofName "" table } Scan.optionalInt

end SwapStore

namespace ChainflipStore

variable {δ : Type}

/-- The failure of asking for ids without naming a table. -/
def noTable : String :=
  "unsupported data type: &[]: Table not set, please set it like: db.Model(&user) or db.Table(\"users\")"

/-- Which of the ids the table holds, each once, in order. -/
def existingIds (h : Handle δ) (table : String) (ids : List String) (d : δ) :
    Except String (List String) × δ :=
  if ids.isEmpty then (.ok [], d)
  else if table = "" then (.error noTable, d)
  else
    let q : Select := { columns := Ident.quote "swap_id", table := TableRef.ofName "" table
                        conditions := [⟨"swap_id IN ?", [.many (ids.map .text)]⟩] }
    match TableStore.ask h q Scan.texts d with
    | (.ok found, d) => (.ok (found.eraseDups.mergeSort fun a b => decide (a ≤ b)), d)
    | (.error e, d) => (.error e, d)

end ChainflipStore

namespace PriceStore

variable {δ : Type}

/-- Keeps a closing price; a held day and coin take the new price. -/
def upsert (h : Handle δ) (p : ClosingPrice) : δ → Except String Unit × δ :=
  TableStore.insert h ClosingPrice.layout (TableRef.ofName "closing_prices" "") ["closing_price_usd"] [p]

/-- Reads the closing price of a coin on a day. -/
def onDate (h : Handle δ) (coinId date : String) : δ → Except String ClosingPrice × δ :=
  TableStore.first h ClosingPrice.layout "" ⟨"coin_id = ? AND date = ?", [.one (.text coinId), .one (.text date)]⟩

end PriceStore

end SwapArchive
