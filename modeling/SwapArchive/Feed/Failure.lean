import SwapArchive.Cursor.Basic

/-!
# Failures of a pass

A `Failure` is why a remote call or a pass failed, as a chain of causes: a leaf (a plain text,
an expired or cancelled deadline, an unexpected HTTP status, a failed store operation
`DatabaseError`, a cursor file failure), or a layer over a cause (a call that spent its attempts,
a text put in front). Failures are sorted by their chain: `reachesDeadline` asks whether an
expired deadline is somewhere in it; `database?`, `file?`, `api?` and `status?` whether a failure
of that kind is.
-/

namespace SwapArchive

/-- A database operation that failed. -/
structure DatabaseError where
  op : String
  table : String
  cause : String
  deriving DecidableEq, Repr

namespace DatabaseError

/-- `database <op> on <table>: <cause>`, or `database <op>: <cause>` without a table. -/
def message (e : DatabaseError) : String :=
  if e.table = "" then "database " ++ e.op ++ ": " ++ e.cause
  else "database " ++ e.op ++ " on " ++ e.table ++ ": " ++ e.cause

end DatabaseError

/-- Why a remote call or a pass failed. -/
inductive Failure where
  /-- A failure known by its text only. -/
  | plain (text : String)
  /-- The deadline of the call passed. -/
  | deadline
  /-- The caller gave up. -/
  | canceled
  /-- The remote service answered with a status other than success. -/
  | status (code : Int) (body : String)
  /-- A call failed after spending `attempts` attempts; `code` is the last status, or 0. -/
  | api (source op : String) (attempts : Nat) (code : Int) (cause : Failure)
  /-- The store failed. -/
  | database (e : DatabaseError)
  /-- A cursor file failed. -/
  | file (e : FileError)
  /-- A cause with a text put in front of it. -/
  | wrapped (lead : String) (cause : Failure)
  deriving DecidableEq, Repr, Inhabited

namespace Failure

/-- Is a remote status worth another attempt: too many requests, or a server failure? -/
def retryableStatus (code : Int) : Bool := code = 429 ∨ code ≥ 500

/-- The text of a failure. -/
def text : Failure → String
  | .plain t => t
  | .deadline => "context deadline exceeded"
  | .canceled => "context canceled"
  | .status c b => "unexpected status code: " ++ toString c ++ ", body: " ++ b
  | .api s o n c e =>
    let head := s ++ " " ++ o ++ " failed after " ++ toString n ++ " attempt(s)"
    if c ≠ 0 then head ++ ", status code " ++ toString c ++ ": " ++ e.text else head ++ ": " ++ e.text
  | .database e => e.message
  | .file e => e.message
  | .wrapped l e => l ++ e.text

/-- Is an expired deadline somewhere in the chain? -/
def reachesDeadline : Failure → Bool
  | .deadline => true
  | .api _ _ _ _ e => e.reachesDeadline
  | .wrapped _ e => e.reachesDeadline
  | _ => false

/-- Is a cancellation somewhere in the chain? -/
def reachesCanceled : Failure → Bool
  | .canceled => true
  | .api _ _ _ _ e => e.reachesCanceled
  | .wrapped _ e => e.reachesCanceled
  | _ => false

/-- The first store failure in the chain. -/
def database? : Failure → Option DatabaseError
  | .database e => some e
  | .api _ _ _ _ e => e.database?
  | .wrapped _ e => e.database?
  | _ => none

/-- The first cursor file failure in the chain. -/
def file? : Failure → Option FileError
  | .file e => some e
  | .api _ _ _ _ e => e.file?
  | .wrapped _ e => e.file?
  | _ => none

/-- Is a call that spent its attempts somewhere in the chain? -/
def api? : Failure → Bool
  | .api .. => true
  | .wrapped _ e => e.api?
  | _ => false

/-- The status of the first unexpected remote answer in the chain. -/
def status? : Failure → Option Int
  | .status c _ => some c
  | .api _ _ _ _ e => e.status?
  | .wrapped _ e => e.status?
  | _ => none

end Failure

end SwapArchive
