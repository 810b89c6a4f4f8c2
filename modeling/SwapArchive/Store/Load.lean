import SwapArchive.Store.Tables
import SwapArchive.Ingest.Loader

/-!
# Loading rows through the store

`TableStore.writer` is the `Writer` of a table of the store: a batch is inserted in one
transaction, committed only when every chunk went in, and a single row is inserted on its own,
both under the table's conflict policy. `Writer.loadBatch` then falls back to single rows when
the transaction does not commit.
-/

namespace SwapArchive

namespace TableStore

variable {δ α : Type}

/-- Runs work that may fail as a unit of work of a transaction. -/
def asWork (work : δ → Except String Unit × δ) (d : δ) : WorkEnd String × δ :=
  match work d with
  | (.ok (), d) => (.done, d)
  | (.error e, d) => (.failed e, d)

/-- The failure text of a transaction that did not commit. -/
def txFailure : TxEnd String → Option String
  | .committed => none
  | .refused e => some e.message
  | .failed e => some e
  | .panicked m => some m

/-- Inserts a batch in one transaction. -/
def createInTx (h : Handle δ) (l : RowLayout α) (table policy : String) (rs : List α) (d : δ) :
    Except String Unit × δ :=
  let (r, d) := h.inTx (asWork (createBatch h l table policy rs)) d
  match txFailure r with
  | none => (.ok (), d)
  | some e => (.error e, d)

/-- The writer of a table: batches in one transaction, single rows on their own. -/
def writer (h : Handle δ) (l : RowLayout α) (key : α → String) (table policy : String) : Writer δ α where
  table := table
  key := key
  storeBatch := createInTx h l table policy
  storeOne := create h l table policy

end TableStore

end SwapArchive
