import SwapArchive.Database.Connection
import SwapArchive.Feed.Failure

/-!
# Work in one transaction

`inTx` runs a unit of work in one transaction. If the transaction cannot be opened the work does
not run and the failure is the database operation `begin`; work that fails or panics is rolled
back and its own failure (or panic) is the answer; work that succeeds is committed, and a failing
commit is the database operation `commit`. So the transaction is committed exactly when the work
succeeded, and rolled back exactly when the work ran and did not.
-/

namespace SwapArchive

/-- How a unit of work ends. -/
inductive WorkEnd (ε : Type) where
  | done
  | failed (e : ε)
  | panicked (message : String)

/-- How a transaction ends. -/
inductive TxEnd (ε : Type) where
  /-- The work succeeded and was committed. -/
  | committed
  /-- The transaction could not be opened or committed. -/
  | refused (e : DatabaseError)
  /-- The work failed and was rolled back. -/
  | failed (e : ε)
  /-- The work panicked and was rolled back. -/
  | panicked (message : String)

namespace Handle

variable {δ ε : Type}

/-- Runs work in one transaction. -/
def inTx (h : Handle δ) (work : δ → WorkEnd ε × δ) (d : δ) : TxEnd ε × δ :=
  match h.begin d with
  | (.error e, d) => (.refused ⟨"begin", "", e⟩, d)
  | (.ok (), d) =>
    match work d with
    | (.done, d) =>
      match h.commit d with
      | (.ok (), d) => (.committed, d)
      | (.error e, d) => (.refused ⟨"commit", "", e⟩, d)
    | (.failed e, d) => (.failed e, h.rollback d)
    | (.panicked m, d) => (.panicked m, h.rollback d)

end Handle

namespace TxEnd

variable {ε : Type}

/-- Did the transaction commit? -/
def isCommitted : TxEnd ε → Bool
  | .committed => true
  | _ => false

end TxEnd

end SwapArchive
