import SwapArchive.Monitor.JobBoard
import SwapArchive.Time.Duration

/-!
# Running a job

`JobBoard.execute` marks a job running, lets its body end and completes it on the board. A body
that finishes succeeds; one that fails fails with its failure, sorted into `error_type`; one that
panics fails with `job panicked: <value>`, keeping the value, an empty stack trace and
`error_type` `panic`; one still running at the job's timeout fails with `job timeout after
<timeout>`, keeping `error_type` `timeout` and the timeout, and counts a timeout. After a success
the job's uptime webhook, if it has one and a notifier is attached, is the one to ping.
-/

namespace SwapArchive

/-- How the body of a job ends. -/
inductive JobEnd where
  | done
  | failed (f : Failure)
  | panicked (value : String)
  | hung
  deriving Repr

/-- A recurring pass as the board runs it: its name, timeout in nanoseconds, whether an uptime
notifier is attached (every job the scheduler makes has one) and uptime webhook (empty for
none). -/
structure Job where
  name : String
  timeout : Int
  notifier : Bool := true
  webhook : String := ""
  deriving DecidableEq, Repr

namespace JobBoard

/-- The failure a job's run ends with, and the metadata kept with it. -/
def outcome (job : Job) : JobEnd → Option Failure × List (String × Json)
  | .done => (none, [])
  | .failed f => (some f, [("error_type", .str f.jobErrorType)])
  | .panicked v =>
    (some (.plain ("job panicked: " ++ v)),
      [("panic", .str v), ("stack_trace", .null), ("error_type", .str "panic")])
  | .hung =>
    (some (.plain ("job timeout after " ++ Duration.text job.timeout)),
      [("error_type", .str "timeout"), ("timeout", .str (Duration.text job.timeout))])

/-- Completes a running job whose body ended with `e`: the board after, and the webhook to ping,
if any. -/
def finish (b : JobBoard) (job : Job) (e : JobEnd) : JobBoard × Option String :=
  let b := match e with
    | .hung => { b with metrics := b.metrics.timedOut job.name }
    | _ => b
  let (failure, metadata) := outcome job e
  let b := b.complete job.name failure metadata
  (b, if failure.isNone ∧ job.notifier ∧ job.webhook ≠ "" then some job.webhook else none)

/-- Runs a job from `now`, its body ending with `e`: the board after, and the webhook to ping, if
any. -/
def execute (b : JobBoard) (job : Job) (e : JobEnd) (now : Int) : JobBoard × Option String :=
  (b.start job.name now).finish job e

end JobBoard

end SwapArchive
