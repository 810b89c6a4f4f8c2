import SwapArchive.Remote.Exchange

/-!
# Retrying with a wait between attempts

`Retry.run` makes a remote call until it succeeds or its attempts are spent, at least one and at
most `maxAttempts`, waiting the policy's delay on the session clock between them. A failed
attempt ends the call at once when its status is not worth retrying, with the context's own
failure when the context has ended, with its own failure when no attempt is left, and at the
deadline when the wait would reach it; otherwise the clock moves on by the delay and the call is
made again. A call that ends failed is reported as `Failure.api`, naming the source, the
operation, the attempts made and the status, if any.
-/

namespace SwapArchive

/-- How many times, and how far apart, a remote call is attempted. -/
structure RetryPolicy where
  maxAttempts : Int
  /-- The wait between two attempts, in milliseconds. -/
  delay : Nat
  deriving Inhabited, Repr

namespace Retry

variable {α : Type}

/-- Does a failure end the call at once: an unexpected status that is not worth retrying? -/
def permanent (e : Failure) : Bool :=
  match e.status? with
  | some c => !Failure.retryableStatus c
  | none => false

/-- Makes attempts; `made` attempts are behind and `left` more are allowed after the next. -/
def loop (c : CallContext) (delay : Nat) (attempt : Session → Except Failure α × Session) :
    Nat → Nat → Session → (Nat × Except Failure α) × Session
  | made, left, s =>
    let (r, s) := attempt s
    let made := made + 1
    match r with
    | .ok v => ((made, .ok v), s)
    | .error e =>
      if permanent e then ((made, .error e), s)
      else match c.ended s.now, left with
        | some stop, _ => ((made, .error stop), s)
        | none, 0 => ((made, .error e), s)
        | none, left + 1 =>
          let next := s.now + delay
          match c.deadline with
          | some d =>
            if d ≤ next then ((made, .error .deadline), { s with now := d })
            else loop c delay attempt made left { s with now := next }
          | none => loop c delay attempt made left { s with now := next }

/-- Makes a remote call of `source` named `op` under a policy and a context. -/
def run (source op : String) (p : RetryPolicy) (c : CallContext)
    (attempt : Session → Except Failure α × Session) (s : Session) : Except Failure α × Session :=
  let budget := if p.maxAttempts ≤ 0 then 1 else p.maxAttempts.toNat
  let ((made, r), s) := loop c p.delay attempt 0 (budget - 1) s
  match r with
  | .ok v => (.ok v, s)
  | .error e => (.error (.api source op made (e.status?.getD 0) e), s)

end Retry

end SwapArchive
