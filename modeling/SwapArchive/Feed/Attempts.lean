import SwapArchive.Feed.Failure

/-!
# Retrying a remote call

`Attempts.run` makes a remote call until it succeeds or its attempts are spent, at least one and
at most `maxAttempts`, with no wait between them. A failed attempt ends the call at once when its
status is not worth retrying (`Failure.retryableStatus`), with `Failure.canceled` when the caller
has given up, and with its own failure when no attempt is left; otherwise the call is made again.
A call that ends failed is reported as `Failure.api`, naming the source, the operation, the
attempts made and the status, if any. The value of the last attempt is kept either way.
-/

namespace SwapArchive

/-- What one attempt gave: its value, and its failure when it failed. -/
structure AttemptEnd (α : Type) where
  value : α
  failure : Option Failure := none

namespace Attempts

variable {σ α : Type}

/-- Makes attempts; `made` attempts are behind and `left` more are allowed after the next. -/
def loop (call : σ → AttemptEnd α × σ) (cancelled : σ → Bool) :
    Nat → Nat → σ → (α × Nat × Option Failure) × σ
  | made, left, s =>
    let (r, s) := call s
    let made := made + 1
    match r.failure with
    | none => ((r.value, made, none), s)
    | some e =>
      let permanent := match e.status? with
        | some c => !Failure.retryableStatus c
        | none => false
      if permanent then ((r.value, made, some e), s)
      else if cancelled s then ((r.value, made, some .canceled), s)
      else match left with
        | 0 => ((r.value, made, some e), s)
        | left + 1 => loop call cancelled made left s

/-- Makes a remote call of `source` named `op` with its retries. -/
def run (source op : String) (maxAttempts : Int) (call : σ → AttemptEnd α × σ) (cancelled : σ → Bool)
    (s : σ) : (α × Option Failure) × σ :=
  let budget := if maxAttempts ≤ 0 then 1 else maxAttempts.toNat
  let ((v, made, e), s) := loop call cancelled 0 (budget - 1) s
  match e with
  | none => ((v, none), s)
  | some e => ((v, some (.api source op made (e.status?.getD 0) e)), s)

end Attempts

end SwapArchive
