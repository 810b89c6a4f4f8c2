import Mathlib
import SwapArchive.Monitor.Job
import SwapArchive.Proofs.Monitor.JobHistory

/-!
# One instrumented run of a job

`JobBoard.execute` starts a job, lets its body end (`JobEnd`: finished, failed, panicked, or still
running at the timeout) and completes the job with that end's failure and metadata; a panic is an
end like the others. `JobBoard.RunRecorded` says what one run does, for every board, job, end and
start time: the job's status takes exactly one more success or failure, with the end's failure
text (`JobEnd.errorText`) and kind under `error_type` (`JobEnd.errorType`); no other status moves;
the running gauge is back where it was; the job's run and duration counts grow by one under its
outcome, the timeout count only for a hung body; and the uptime webhook is pinged exactly after a
success of a job with a notifier and a webhook. A body that panics with `timeout` is a `panic`.
-/

namespace SwapArchive

set_option autoImplicit false

namespace JobEnd

/-- Did the body finish? -/
def succeeded : JobEnd → Bool
  | .done => true
  | _ => false

/-- Was the body still running at the timeout? -/
def timedOut : JobEnd → Bool
  | .hung => true
  | _ => false

/-- The failure text a run ending so is recorded with, empty after a success. -/
def errorText (job : Job) : JobEnd → String
  | .done => ""
  | .failed f => f.text
  | .panicked v => "job panicked: " ++ v
  | .hung => "job timeout after " ++ Duration.text job.timeout

/-- The kind a run ending so is recorded under, none after a success. -/
def errorType : JobEnd → Option String
  | .done => none
  | .failed f => some f.jobErrorType
  | .panicked _ => some "panic"
  | .hung => some "timeout"

/-- The outcome a run ending so is counted under among the runs. -/
def runLabel (e : JobEnd) : String := if e.succeeded then "success" else "error"

/-- The outcome a run ending so is counted under among the durations. -/
def durationLabel (e : JobEnd) : String := if e.succeeded then "success" else "failed"

end JobEnd

namespace JobMetrics

/-- The count kept under a key, zero when there is none. -/
def count {κ : Type} [DecidableEq κ] (xs : List (κ × Nat)) (k : κ) : Nat :=
  ((xs.find? (·.1 = k)).map (·.2)).getD 0

/-- Changing the counts of entries but not their keys: the first entry of a key is the first
entry of it before, changed. -/
theorem find?_map_of_keys {κ : Type} [DecidableEq κ] (xs : List (κ × Nat)) {f : κ × Nat → κ × Nat}
    (hf : ∀ e, (f e).1 = e.1) (j : κ) : (xs.map f).find? (·.1 = j) = (xs.find? (·.1 = j)).map f := by
  induction xs with
  | nil => rfl
  | cons e es ih => by_cases h : e.1 = j <;> simp [hf, h, ih]

/-- Counting once more under `k` adds one to the count of `k` and leaves every other count. -/
theorem count_bump {κ : Type} [DecidableEq κ] (xs : List (κ × Nat)) (k j : κ) :
    count (bump xs k) j = count xs j + if j = k then 1 else 0 := by
  unfold bump count
  split
  · rename_i x hk
    rw [find?_map_of_keys xs (fun e => by split_ifs <;> rfl) j]
    by_cases hjk : j = k
    · subst hjk
      have hx : x.1 = j := by simpa using List.find?_some hk
      simp [hk, hx]
    · rcases hj : xs.find? (fun e => decide (e.1 = j)) with _ | y
      · simp [hj, hjk]
      · have hy : y.1 = j := by simpa using List.find?_some hj
        simp [hj, hy, hjk]
  · rename_i hk
    by_cases hj : j = k
    · subst hj
      simp [List.find?_append, hk]
    · simp [List.find?_append, Ne.symm hj, hj]

end JobMetrics

namespace JobStatus

/-- The value kept under a key of a status's metadata. -/
def meta? (st : JobStatus) (key : String) : Option Json := (st.metadata.find? (·.1 = key)).map (·.2)

end JobStatus

namespace JobBoard

/-- Merging metadata: a key given in the entries takes the last value given, any other keeps the
value it had. -/
theorem find?_merge (k : String) (into entries : List (String × Json)) :
    (merge into entries).find? (·.1 = k) = (entries.reverse.find? (·.1 = k)).or (into.find? (·.1 = k)) := by
  induction entries generalizing into with
  | nil => simp [merge]
  | cons e es ih =>
    have hstep := ih (into.filter (·.1 ≠ e.1) ++ [e])
    simp only [merge, List.foldl_cons] at hstep ⊢
    rw [hstep, List.reverse_cons, List.find?_append, List.find?_append, Option.or_assoc]
    congr 1
    by_cases he : e.1 = k
    · have hgone : (into.filter (·.1 ≠ e.1)).find? (·.1 = k) = none := by
        rw [List.find?_eq_none]
        intro x hx
        simp only [List.mem_filter] at hx
        simpa [← he] using hx.2
      rw [hgone, Option.none_or]
      simp [he]
    · have hkeep : (into.filter (·.1 ≠ e.1)).find? (·.1 = k) = into.find? (·.1 = k) := by
        rw [List.find?_filter]
        apply List.find?_congr
        intro x _
        by_cases hx : x.1 = k
        · simp [hx, Ne.symm he]
        · simp [hx]
      rw [hkeep]
      simp [he]

end JobBoard

namespace JobStatus

variable (st : JobStatus) (md : List (String × Json))

/-- A success leaves no kind of failure in the metadata. -/
theorem meta?_complete_none : (st.complete none md).meta? "error_type" = none := by
  simp only [meta?, complete, Option.map_eq_none_iff, List.find?_eq_none, List.mem_filter]
  intro x hx
  simpa using hx.2

/-- A failure whose metadata gives a kind keeps the last kind given. -/
theorem meta?_complete_of_given (f : Failure) {v : Json}
    (hv : (md.reverse.find? (·.1 = "error_type")).map (·.2) = some v) :
    (st.complete (some f) md).meta? "error_type" = some v := by
  obtain ⟨x, hx, rfl⟩ := Option.map_eq_some_iff.1 hv
  have hgiven : md.any (·.1 = "error_type") = true := by
    rw [List.any_eq_true]
    exact ⟨x, List.mem_reverse.1 (List.mem_of_find?_eq_some hx), by simpa using List.find?_some hx⟩
  simp [meta?, complete, hgiven, JobBoard.find?_merge, hx]

end JobStatus

/-- `st` is the status `prev` takes from one run of `job` started at `now` that ended with `e`:
one more success or failure, the failure text and kind of the end, and the start time. -/
structure JobStatus.AfterRun (prev : JobStatus) (job : Job) (e : JobEnd) (now : Int) (st : JobStatus) :
    Prop where
  state : st.state = if e.succeeded then .success else .failed
  successes : st.successCount = prev.successCount + if e.succeeded then 1 else 0
  failures : st.failureCount = prev.failureCount + if e.succeeded then 0 else 1
  inRow : st.consecutiveFailures = if e.succeeded then 0 else prev.consecutiveFailures + 1
  lastError : st.lastError = e.errorText job
  errorType : st.meta? "error_type" = e.errorType.map Json.str
  lastRun : st.lastRun = now

/-- What one run of `job` from `now`, its body ending with `e`, does to the board `b`: `r` is the
board it leaves and the webhook it pings. -/
structure JobBoard.RunRecorded (b : JobBoard) (job : Job) (e : JobEnd) (now : Int)
    (r : JobBoard × Option String) : Prop where
  status : ∃ st, r.1.status? job.name = some st ∧ ((b.status? job.name).getD {}).AfterRun job e now st
  others : ∀ j, j ≠ job.name → r.1.status? j = b.status? j
  active : r.1.metrics.active = b.metrics.active
  timeouts : ∀ j, JobMetrics.count r.1.metrics.timeouts j =
    JobMetrics.count b.metrics.timeouts j + if j = job.name ∧ e.timedOut then 1 else 0
  runs : ∀ k, JobMetrics.count r.1.metrics.runs k =
    JobMetrics.count b.metrics.runs k + if k = (job.name, e.runLabel) then 1 else 0
  durations : ∀ k, JobMetrics.count r.1.metrics.durations k =
    JobMetrics.count b.metrics.durations k + if k = (job.name, e.durationLabel) then 1 else 0
  webhook : r.2 = if e.succeeded ∧ job.notifier ∧ job.webhook ≠ "" then some job.webhook else none

namespace JobBoard

variable (b : JobBoard) (job : Job) (e : JobEnd) (now : Int)

/-- The failure a run completes with carries the end's failure text. -/
theorem outcome_text : (((outcome job e).1).map Failure.text).getD "" = e.errorText job := by
  cases e <;> rfl

/-- The status a run completes: the job's status before it, marked running from `now`. -/
def started (now : Int) : JobStatus := { (b.status? job.name).getD {} with state := .running, lastRun := now }

/-- After a run, the job's status is the started status completed with the end's failure and
metadata; every other status is as before. -/
theorem status?_execute (j : String) :
    (b.execute job e now).1.status? j =
      if j = job.name then some ((b.started job now).complete (outcome job e).1 (outcome job e).2)
      else b.status? j := by
  unfold execute finish
  by_cases hj : j = job.name
  · subst hj
    cases e <;> simp [status?_complete, status?_start, started]
  · cases e <;> simp [status?_complete, status?_start, hj]

/-- The status a run leaves follows from the status before it. -/
theorem afterRun_complete :
    ((b.status? job.name).getD {}).AfterRun job e now
      ((b.started job now).complete (outcome job e).1 (outcome job e).2) where
  state := by cases e <;> simp [started, RunEvent.state, JobEnd.succeeded, outcome]
  successes := by cases e <;> simp [started, JobEnd.succeeded, outcome]
  failures := by cases e <;> simp [started, JobEnd.succeeded, outcome]
  inRow := by cases e <;> simp [started, JobEnd.succeeded, outcome]
  lastError := by rw [JobStatus.complete_lastError, outcome_text]
  errorType := by
    cases e with
    | done => exact JobStatus.meta?_complete_none _ _
    | failed f => exact JobStatus.meta?_complete_of_given _ _ f (by simp [outcome])
    | panicked v => exact JobStatus.meta?_complete_of_given _ _ _ (by simp [outcome])
    | hung => exact JobStatus.meta?_complete_of_given _ _ _ (by simp [outcome])
  lastRun := by simp [started]

/-- A start counts one more running job and leaves the other metrics. -/
theorem metrics_start (j : String) (t : Int) :
    (b.start j t).metrics = { b.metrics with active := b.metrics.active + 1 } := by
  unfold start
  rcases b.status? j with _ | st <;> rfl

/-- A completion of a job on the board counts the run and its duration under its outcome, and
one running job fewer. -/
theorem metrics_complete {j : String} {st : JobStatus} (hs : b.status? j = some st)
    (f : Option Failure) (md : List (String × Json)) :
    (b.complete j f md).metrics = { b.metrics.finished j f.isNone with active := b.metrics.active - 1 } := by
  unfold complete
  rw [hs]
  rfl

/-- The metrics a run leaves: the start counts one more running job and the completion one fewer,
the completion counts the run and its duration under its outcome, and a hung body a timeout. -/
theorem metrics_execute :
    (b.execute job e now).1.metrics =
      { b.metrics with
        runs := JobMetrics.bump b.metrics.runs (job.name, e.runLabel)
        durations := JobMetrics.bump b.metrics.durations (job.name, e.durationLabel)
        timeouts := if e.timedOut then JobMetrics.bump b.metrics.timeouts job.name else b.metrics.timeouts } := by
  have hon : ∀ m : JobMetrics, ({ b.start job.name now with metrics := m } : JobBoard).status? job.name =
      some (b.started job now) := fun m => by
    simp [status?_start, started]
  unfold execute finish
  cases e <;>
    simp [metrics_complete _ (hon _), metrics_start, outcome, JobEnd.timedOut,
      JobEnd.runLabel, JobEnd.durationLabel, JobEnd.succeeded, JobMetrics.finished, JobMetrics.timedOut]

/-- One run of a job records exactly one start and one completion of it, with the failure text
and kind of the way its body ended (`job panicked: <value>` and `panic` for a panic,
`job timeout after <timeout>` and `timeout` for a body still running at the timeout, the
failure's text and sorted kind for a failure, none for a success), leaves every other job and the
running-jobs gauge as they were, counts a timeout only for a hung body, and pings the webhook
exactly after a success of a job with a notifier and a webhook. -/
theorem execute_records_run_once : b.RunRecorded job e now (b.execute job e now) where
  status := ⟨_, by simp [status?_execute], afterRun_complete b job e now⟩
  others := fun j hj => by simp [status?_execute, hj]
  active := by rw [metrics_execute]
  timeouts := fun j => by
    rw [metrics_execute]
    cases e <;> simp [JobEnd.timedOut, JobMetrics.count_bump]
  runs := fun k => by rw [metrics_execute, JobMetrics.count_bump]
  durations := fun k => by rw [metrics_execute, JobMetrics.count_bump]
  webhook := by
    unfold execute finish
    cases e <;> simp [outcome, JobEnd.succeeded]

end JobBoard

end SwapArchive
