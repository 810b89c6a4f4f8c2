import SwapArchive.Feed.Failure

/-!
# Loading rows into a table

A `Writer` stores rows of one table: in one batch that is taken whole or refused whole, or one
row at a time. `Writer.loadBatch` tries the batch first and, if it is refused, stores the rows
one by one, so that a bad row costs only itself. It answers with the number of rows stored and
the failures, one per refused row, in row order; the two always add up to the number of rows.
A refused row is reported as the operation `insert <key>` on the writer's table.
-/

namespace SwapArchive

/-- How rows of type `α` reach one table of a world `σ`. -/
structure Writer (σ α : Type) where
  table : String
  key : α → String
  storeBatch : List α → σ → Except String Unit × σ
  storeOne : α → σ → Except String Unit × σ

namespace Writer

variable {σ α : Type}

/-- Stores one row; a refusal names the row's key. -/
def loadOne (w : Writer σ α) (x : α) : StateM σ (Except DatabaseError Unit) := do
  match ← modifyGet (w.storeOne x) with
  | .ok () => pure (.ok ())
  | .error cause => pure (.error ⟨"insert " ++ w.key x, w.table, cause⟩)

/-- Stores rows one by one: the count stored and the failures, in order. -/
def loadEach (w : Writer σ α) : List α → StateM σ (Nat × List DatabaseError)
  | [] => pure (0, [])
  | x :: xs => do
    let r ← w.loadOne x
    let (n, errs) ← w.loadEach xs
    match r with
    | .ok () => pure (n + 1, errs)
    | .error e => pure (n, e :: errs)

/-- Stores rows as one batch, or one by one if the batch is refused. No row, no request. -/
def loadBatch (w : Writer σ α) (xs : List α) : StateM σ (Nat × List DatabaseError) := do
  if xs.isEmpty then pure (0, [])
  else
    match ← modifyGet (w.storeBatch xs) with
    | .ok () => pure (xs.length, [])
    | .error _ => w.loadEach xs

end Writer

end SwapArchive
