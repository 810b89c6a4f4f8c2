import SwapArchive.Feed.Failure
import SwapArchive.Json.Value
import SwapArchive.Number.FloatText
import SwapArchive.Text.Case

/-!
# The job board

The board keeps one status per recurring pass (state, counts of successes, failures and failures
in a row, the last failure's text, metadata, last start and next run) and the job metrics. `start`
marks a job running, adding it if need be; `complete` ends a run of a job on the board, merging
in the metadata: a failure marks it failed, counts it, keeps its text and sorts it into
`error_type` (`Failure.jobErrorType`) unless the metadata gave one; a success clears the failures
in a row, the text and `error_type`. Either way the running gauge drops by one, below zero for a
job never started. A status keeps no other timing of its runs. Read at a time, a job running
longer than `stallAfter` (two hours) reads as stalled (`JobStatus.readAt`).
-/

namespace SwapArchive

/-- The state of a job. -/
inductive JobState where
  | pending
  | running
  | success
  | failed
  | stalled
  deriving DecidableEq, Repr

namespace JobState

/-- The name of a state. -/
def text : JobState → String
  | .pending => "pending"
  | .running => "running"
  | .success => "success"
  | .failed => "failed"
  | .stalled => "stalled"

end JobState

/-- The status of one job. -/
structure JobStatus where
  state : JobState := .pending
  successCount : Nat := 0
  failureCount : Nat := 0
  consecutiveFailures : Nat := 0
  lastError : String := ""
  metadata : List (String × Json) := []
  /-- When the job last started, in nanoseconds. -/
  lastRun : Int := 0
  /-- When the scheduler fires the job next, once it has said. -/
  nextRun : Option Int := none
  deriving Inhabited

/-- The JSON form of a job's status. -/
def JobStatus.toJson (s : JobStatus) : Json :=
  .obj [("status", .str s.state.text), ("success_count", Json.ofInt s.successCount),
    ("failure_count", Json.ofInt s.failureCount), ("consecutive_failures", Json.ofInt s.consecutiveFailures),
    ("last_error", .str s.lastError), ("metadata", .obj s.metadata)]

namespace Failure

/-- The text in lower case. -/
def lowered (s : String) : String := Case.lowerText s

/-- The kind of a failed run, as kept under `error_type`. -/
def jobErrorType (f : Failure) : String :=
  if f.reachesDeadline then "timeout"
  else if f.database?.isSome then "database"
  else if f.file?.isSome then "checkpoint"
  else if f.api? then "external_api"
  else
    let t := lowered f.text
    let has := fun (w : String) => (t.splitOn w).length > 1
    if has "timeout" || has "deadline" then "timeout"
    else if has "circuit breaker" then "external_api"
    else if has "database" || has "sql" then "database"
    else if has "connection" || has "network" then "network"
    else if has "panic" then "panic"
    else "unknown"

end Failure

/-- The job metrics: counts keyed by job and outcome, and the gauges. -/
structure JobMetrics where
  durations : List ((String × String) × Nat) := []
  runs : List ((String × String) × Nat) := []
  timeouts : List (String × Nat) := []
  active : Int := 0
  stalled : Int := 0
  deriving Inhabited

namespace JobMetrics

/-- Adds one to the count of a key, creating it first. -/
def bump {κ : Type} [DecidableEq κ] (xs : List (κ × Nat)) (k : κ) : List (κ × Nat) :=
  match xs.find? (fun e => e.1 = k) with
  | some _ => xs.map fun e => if e.1 = k then (e.1, e.2 + 1) else e
  | none => xs ++ [(k, 1)]

/-- Counts one finished run of a job, as `success` or `error` (its duration as `success` or
`failed`). -/
def finished (m : JobMetrics) (job : String) (ok : Bool) : JobMetrics :=
  { m with durations := bump m.durations (job, if ok then "success" else "failed")
           runs := bump m.runs (job, if ok then "success" else "error") }

/-- Counts one timeout of a job. -/
def timedOut (m : JobMetrics) (job : String) : JobMetrics :=
  { m with timeouts := bump m.timeouts job }

/-- A gauge value as text. -/
def gauge (v : Int) : String := FloatText.general (Float.ofInt v)

/-- The metric lines, `name{label=value,...} value`, durations as their count only, in byte
order. -/
def lines (m : JobMetrics) : List String :=
  let pair := fun (name : String) (k : String × String) => name ++ "\x7bjob_name=" ++ k.1 ++ ",status=" ++ k.2 ++ "\x7d"
  let all :=
    m.durations.map (fun e => pair "swap_ingestor_job_duration_seconds" e.1 ++ " count " ++ toString e.2) ++
    m.runs.map (fun e => pair "swap_ingestor_job_runs_total" e.1 ++ " " ++ toString e.2) ++
    m.timeouts.map (fun e => "swap_ingestor_job_timeouts_total\x7bjob_name=" ++ e.1 ++ "\x7d " ++ toString e.2) ++
    ["swap_ingestor_jobs_active\x7b\x7d " ++ gauge m.active, "swap_ingestor_jobs_stalled\x7b\x7d " ++ gauge m.stalled]
  all.mergeSort (fun a b => decide (a ≤ b))

end JobMetrics

/-- The statuses of the jobs, in the order they joined, and the job metrics. -/
structure JobBoard where
  jobs : List (String × JobStatus) := []
  metrics : JobMetrics := {}
  deriving Inhabited

namespace JobBoard

/-- The status of a job. -/
def status? (b : JobBoard) (job : String) : Option JobStatus := (b.jobs.find? (·.1 = job)).map (·.2)

/-- Replaces the status of a job on the board. -/
def put (b : JobBoard) (job : String) (st : JobStatus) : JobBoard :=
  { b with jobs := b.jobs.map fun e => if e.1 = job then (job, st) else e }

/-- Adds a pending status for a job not yet on the board. -/
def register (b : JobBoard) (job : String) : JobBoard :=
  if (b.status? job).isSome then b else { b with jobs := b.jobs ++ [(job, ({} : JobStatus))] }

/-- Marks a job running from `now`. -/
def start (b : JobBoard) (job : String) (now : Int) : JobBoard :=
  let b := match b.status? job with
    | some st => b.put job { st with state := .running, lastRun := now }
    | none => { b with jobs := b.jobs ++ [(job, ({ state := .running, lastRun := now } : JobStatus))] }
  { b with metrics := { b.metrics with active := b.metrics.active + 1 } }

/-- Records when the scheduler fires a job on the board next. -/
def setNextRun (b : JobBoard) (job : String) (next : Int) : JobBoard :=
  match b.status? job with
  | some st => b.put job { st with nextRun := some next }
  | none => b

/-- Sets keys of metadata, later entries winning. -/
def merge (into : List (String × Json)) (entries : List (String × Json)) : List (String × Json) :=
  entries.foldl (fun acc e => (acc.filter (·.1 ≠ e.1)) ++ [e]) into

end JobBoard

/-- A status after a run that ended with `failure` (none for a success), with `metadata` merged
in. -/
def JobStatus.complete (st : JobStatus) (failure : Option Failure) (metadata : List (String × Json)) :
    JobStatus :=
  let md := JobBoard.merge st.metadata metadata
  match failure with
  | some f =>
    let md := if metadata.any (·.1 = "error_type") then md
      else JobBoard.merge md [("error_type", .str f.jobErrorType)]
    { st with state := .failed, failureCount := st.failureCount + 1
              consecutiveFailures := st.consecutiveFailures + 1, lastError := f.text
              metadata := md }
  | none =>
    { st with state := .success, successCount := st.successCount + 1, consecutiveFailures := 0
              lastError := "", metadata := md.filter (·.1 ≠ "error_type") }

namespace JobBoard

/-- Ends a run of a job on the board, with its failure if it failed. -/
def complete (b : JobBoard) (job : String) (failure : Option Failure) (metadata : List (String × Json)) :
    JobBoard :=
  match b.status? job with
  | none => b
  | some st =>
    let m := b.metrics.finished job failure.isNone
    let b := b.put job (st.complete failure metadata)
    { b with metrics := { m with active := m.active - 1 } }

end JobBoard

/-- The counts of jobs by state. -/
structure JobsSummary where
  total : Nat := 0
  running : Nat := 0
  healthy : Nat := 0
  unhealthy : Nat := 0
  stalled : Nat := 0
  deriving DecidableEq, Repr

namespace JobBoard

/-- How long a job may run before it reads as stalled: two hours, in nanoseconds. -/
def stallAfter : Int := 2 * 3600 * 1000000000

end JobBoard

/-- A status as it reads at `now`: a job running for longer than `JobBoard.stallAfter` reads as
stalled. -/
def JobStatus.readAt (st : JobStatus) (now : Int) : JobStatus :=
  if st.state = .running ∧ now - st.lastRun > JobBoard.stallAfter then { st with state := .stalled } else st

namespace JobBoard

/-- The statuses of the board as they read at `now`. -/
def readAt (b : JobBoard) (now : Int) : List (String × JobStatus) :=
  b.jobs.map fun e => (e.1, e.2.readAt now)

/-- The counts of the board's jobs by state, as they read at `now`. -/
def summary (b : JobBoard) (now : Int) : JobsSummary :=
  let jobs := b.readAt now
  let count := fun (s : JobState) => (jobs.filter (·.2.state = s)).length
  { total := jobs.length, running := count .running, healthy := count .success
    unhealthy := count .failed, stalled := count .stalled }

end JobBoard

end SwapArchive
