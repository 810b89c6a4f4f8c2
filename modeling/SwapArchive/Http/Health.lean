import SwapArchive.Json.Print
import SwapArchive.Monitor.JobBoard
import SwapArchive.Database.Connection
import SwapArchive.Monitor.Breaker

/-!
# Health endpoints

**Basic** answers `200 {"message": "ok"}`. **Database** pings the database: without one, or when
the ping is refused or times out, 503; otherwise 200 with the driver's name and a pool of one idle
connection. **External** reads every remote service's breaker: closed healthy, half-open degraded,
open or missing unhealthy; 200 only when all are healthy, else 503. **Jobs** lists the board's
statuses as they read at the check: 503 with a stalled job (running over two hours) or a failed
live-tail job with more than two failures in a row, 206 with any other failed job, 200 otherwise,
and 503 with no board at all; pending-set sizes are added when kept. Bodies leave out the times of
the check.
-/

namespace SwapArchive

/-- The verdict of a health check. -/
inductive CheckStatus where
  | healthy
  | degraded
  | unhealthy
  deriving DecidableEq, Repr

namespace CheckStatus

/-- The name of a verdict. -/
def text : CheckStatus → String
  | .healthy => "healthy"
  | .degraded => "degraded"
  | .unhealthy => "unhealthy"

/-- The HTTP status answered with a verdict. -/
def code : CheckStatus → Nat
  | .healthy => 200
  | .degraded => 206
  | .unhealthy => 503

end CheckStatus

/-- One health check: its verdict, why it failed, and what it found. -/
structure HealthCheck where
  status : CheckStatus
  error : String := ""
  metadata : List (String × Json) := []

namespace HealthCheck

/-- The check as JSON; an empty error or metadata is left out. -/
def toJson (c : HealthCheck) : Json :=
  .obj ([("status", .str c.status.text)] ++
    (if c.error = "" then [] else [("error", .str c.error)]) ++
    (if c.metadata.isEmpty then [] else [("metadata", .obj c.metadata)]))

end HealthCheck

namespace Health

/-- The basic check. -/
def basic : HttpResponse := ⟨200, .obj [("message", .str "ok")]⟩

/-- An answer over named checks, healthy when every check is. -/
def overChecks (checks : List (String × HealthCheck)) : HttpResponse :=
  let status := if checks.all (·.2.status = .healthy) then CheckStatus.healthy else .unhealthy
  ⟨if status = .healthy then 200 else 503,
    .obj [("status", .str status.text), ("checks", .obj (checks.map fun c => (c.1, c.2.toJson)))]⟩

/-- The connection pool after a ping: one connection, idle. -/
def connectionPool : Json :=
  .obj [("open_connections", Json.ofInt 1), ("in_use", Json.ofInt 0), ("idle", Json.ofInt 1),
    ("max_open", Json.ofInt 0)]

variable {δ : Type}

/-- Pings the database, if there is one. -/
def databaseCheck (ping : Option (δ → PingEnd × δ)) (d : δ) : HealthCheck × δ :=
  match ping with
  | none => ({ status := .unhealthy, error := "database connection not available" }, d)
  | some ping =>
    match ping d with
    | (.answered, d) =>
      ({ status := .healthy, metadata := [("driver", .str "postgres"), ("connection_pool", connectionPool)] }, d)
    | (.refused reason, d) => ({ status := .unhealthy, error := reason }, d)
    | (.silent, d) => ({ status := .unhealthy, error := "timeout" }, d)

/-- The database endpoint. -/
def database (ping : Option (δ → PingEnd × δ)) (d : δ) : HttpResponse × δ :=
  let (c, d) := databaseCheck ping d
  (overChecks [("database", c)], d)

/-- The check of one remote service's breaker; `none` is a remote service without a feed. -/
def breakerCheck : Option BreakerState → HealthCheck
  | none => { status := .unhealthy, error := "feed not configured" }
  | some st =>
    let md := [("circuit_breaker", Json.str st.text)]
    match st with
    | .open_ => { status := .unhealthy, error := "circuit breaker open", metadata := md }
    | .halfOpen => { status := .degraded, metadata := md }
    | .closed => { status := .healthy, metadata := md }

/-- The external endpoint, over the breaker state of each named remote service. -/
def external (remotes : List (String × Option BreakerState)) : HttpResponse :=
  let sorted := remotes.mergeSort (fun a b => decide (a.1 ≤ b.1))
  overChecks (sorted.map fun u => (u.1, breakerCheck u.2))

/-- A job's status in a health answer; an empty last failure or metadata is left out. -/
def jobJson (name : String) (s : JobStatus) : Json :=
  .obj ([("job_name", .str name), ("status", .str s.state.text), ("success_count", Json.ofInt s.successCount),
    ("failure_count", Json.ofInt s.failureCount), ("consecutive_failures", Json.ofInt s.consecutiveFailures)] ++
    (if s.lastError = "" then [] else [("last_error", .str s.lastError)]) ++
    (if s.metadata.isEmpty then [] else [("metadata", .obj s.metadata)]))

/-- The counts of jobs as JSON. -/
def summaryJson (s : JobsSummary) : Json :=
  .obj [("total_jobs", Json.ofInt s.total), ("running_jobs", Json.ofInt s.running),
    ("healthy_jobs", Json.ofInt s.healthy), ("unhealthy_jobs", Json.ofInt s.unhealthy),
    ("stalled_jobs", Json.ofInt s.stalled)]

/-- The live-tail jobs keep the tables current: their repeated failure is critical. -/
def criticalSuffix : String := "_live_tail"

/-- The verdict over a board read at `now`. -/
def jobsVerdict (b : JobBoard) (now : Int) : CheckStatus :=
  let s := b.summary now
  if s.stalled > 0 then .unhealthy
  else if s.unhealthy > 0 then
    if (b.readAt now).any (fun e => e.1.endsWith criticalSuffix ∧ e.2.state = .failed ∧ e.2.consecutiveFailures > 2)
    then .unhealthy else .degraded
  else .healthy

/-- The jobs endpoint at `now`, over the board if there is one and the pending-set sizes if
kept. -/
def jobs (board : Option JobBoard) (pending : Option (List (String × Nat))) (now : Int) : HttpResponse :=
  match board with
  | none =>
    ⟨503, .obj [("status", .str "unhealthy"), ("jobs", .obj []), ("summary", summaryJson {})]⟩
  | some b =>
    let v := jobsVerdict b now
    let sizes := match pending with
      | some ps => [("pending", Json.obj (ps.map fun p => (p.1, Json.ofInt p.2)))]
      | none => []
    ⟨v.code, .obj ([("status", .str v.text), ("jobs", .obj ((b.readAt now).map fun e => (e.1, jobJson e.1 e.2))),
      ("summary", summaryJson (b.summary now))] ++ sizes)⟩

end Health

end SwapArchive
