import SwapArchive.Schedule.Cron
import SwapArchive.Monitor.Job
import SwapArchive.Config.App
import SwapArchive.Ingest.Run

/-!
# The scheduler

`Scheduler.create` loads the ingestion time zone (`UTC` when empty). `Scheduler.register` adds,
source by source, `chainflip_sync` for Chainflip and, for any other kind `k`, `k_live_tail`,
`k_pending_retry`, `k_backfill` and `k_reconcile` when reconciled, then the start-up passes
`k_backfill` and `k_historical_forward` as configured; last `btc_closing_price`, pinned to UTC
unless it names a zone or is a descriptor. A blank schedule leaves its job out; any other job
joins the board before its schedule is read, so a faulty schedule, which stops the registration,
leaves its job on the board. A second job of a name is scheduled beside the first, the name listed
once. `Scheduler.requestAt` is the run a job makes when it fires.
-/

namespace SwapArchive

/-- What a recurring pass does. -/
inductive PassTask where
  | liveTail (kind : String)
  | retryPending (kind : String)
  | backfill (kind : String)
  | reconcile (kind : String)
  | forwardHistory (kind : String)
  | chainflipSync
  | closingPrice
  deriving DecidableEq, Repr

namespace PassTask

/-- The pass and the source it runs for, as `backfill native`. -/
def text : PassTask → String
  | .liveTail k => "live_tail " ++ k
  | .retryPending k => "retry_pending " ++ k
  | .backfill k => "backfill " ++ k
  | .reconcile k => "reconcile " ++ k
  | .forwardHistory k => "forward_history " ++ k
  | .chainflipSync => "sync_chainflip"
  | .closingPrice => "fetch_closing_price"

/-- The run a pass makes at `now` in zone `z`. -/
def request (z : Zone) (now : Instant) : PassTask → PassRequest
  | .liveTail k => .liveTail k
  | .retryPending k => .retryPending k
  | .backfill k => .backfill k
  | .reconcile k =>
    let w := Reconcile.window now z
    .reconcile k w.1.sec w.2.sec
  | .forwardHistory k => .forwardHistory k
  | .chainflipSync => .syncChainflip
  | .closingPrice => .closingPrice

end PassTask

/-- Why the scheduler could not be set up. -/
inductive ScheduleFault where
  /-- The ingestion time zone cannot be loaded. -/
  | badZone (zone reason : String)
  /-- A job's schedule cannot be read. -/
  | cannotSchedule (job spec reason : String)
  /-- A zone prefix with no space after it: reading it runs past the end of the text. -/
  | crash
  deriving DecidableEq, Repr

namespace ScheduleFault

/-- The message of a fault. -/
def message : ScheduleFault → String
  | .badZone z r => "invalid ingestion timezone " ++ Quoted.quote z ++ ": " ++ r
  | .cannotSchedule j s r => "failed to schedule " ++ j ++ " with " ++ Quoted.quote s ++ ": " ++ r
  | .crash => "runtime error: slice bounds out of range [:-1]"

end ScheduleFault

/-- A job on a cron schedule, and the pass it runs. -/
structure ScheduledJob where
  job : Job
  task : PassTask
  schedule : CronSchedule
  deriving DecidableEq, Repr

/-- The scheduled jobs, the start-up passes and the board. -/
structure Scheduler where
  zone : String
  entries : List ScheduledJob := []
  startup : List (Job × PassTask) := []
  board : JobBoard := {}
  deriving Inhabited

/-- A step of setting up the scheduler. -/
abbrev ScheduleM := ExceptT ScheduleFault (StateM Scheduler)

namespace Scheduler

/-- Nanoseconds in a minute. -/
def minute : Int := 60000000000

/-- The timeout of a pass. -/
def timeout : PassTask → Int
  | .liveTail _ => 4 * minute
  | .retryPending _ => 4 * minute
  | .backfill _ => 55 * minute
  | .forwardHistory _ => 120 * minute
  | .reconcile _ => 30 * minute
  | .chainflipSync => 14 * minute
  | .closingPrice => 2 * minute

/-- The name of the closing price job. -/
def closingPriceJob : String := "btc_closing_price"

/-- Pins a five-field schedule to UTC; a blank one, a descriptor or one naming a zone is kept. -/
def utcSpec (spec : String) : String :=
  let spec := Clean.trim spec
  if spec = "" ∨ spec.startsWith "@" ∨ spec.startsWith "CRON_TZ=" ∨ spec.startsWith "TZ=" then spec
  else "CRON_TZ=UTC " ++ spec

/-- Sets up a scheduler in the ingestion time zone. -/
def create (c : AppConfig) : Except ScheduleFault Scheduler :=
  let tz := if c.ingestion.timezone = "" then "UTC" else c.ingestion.timezone
  match Zone.load tz with
  | .ok _ => .ok { zone := tz }
  | .error e => .error (.badZone tz e.message)

/-- Schedules a job, unless its schedule is blank. -/
def add (name spec webhook : String) (task : PassTask) : ScheduleM Unit := do
  if Clean.trim spec = "" then return
  modify fun s => { s with board := s.board.register name }
  match Cron.parse spec with
  | .error (.invalid r) => throw (.cannotSchedule name spec r)
  | .error .unterminatedZone => throw .crash
  | .ok sched =>
    let e : ScheduledJob := { job := { name := name, timeout := timeout task, webhook := webhook }
                              task := task, schedule := sched }
    modify fun s => { s with entries := s.entries ++ [e] }

/-- Adds a pass to run on start. -/
def addStartup (name webhook : String) (task : PassTask) : ScheduleM Unit :=
  modify fun s => { s with board := s.board.register name
                           startup := s.startup ++ [({ name := name, timeout := timeout task, webhook := webhook }, task)] }

/-- Adds the jobs of one source. -/
def addSource (c : AppConfig) (src : Source) : ScheduleM Unit := do
  let sched := c.schedule
  let hooks := c.webhooks
  let k := src.kind
  if k = Source.chainflip then
    add "chainflip_sync" sched.chainflipSync hooks.chainflipSync .chainflipSync
  else
    add (k ++ "_live_tail") sched.liveTail hooks.liveTail (.liveTail k)
    add (k ++ "_pending_retry") sched.pendingRetry hooks.pendingRetry (.retryPending k)
    add (k ++ "_backfill") sched.backfill hooks.backfill (.backfill k)
    if src.reconcile then
      add (k ++ "_reconcile") sched.reconcile hooks.reconcile (.reconcile k)
    if c.ingestion.backfillOnStart then
      addStartup (k ++ "_backfill") hooks.backfill (.backfill k)
    if c.ingestion.forwardHistoryOnStart then
      addStartup (k ++ "_historical_forward") "" (.forwardHistory k)

/-- Adds every job of the configuration. -/
def register (c : AppConfig) : ScheduleM Unit := do
  for src in c.sources do
    addSource c src
  add closingPriceJob (utcSpec c.schedule.closingPrice) c.webhooks.closingPrice .closingPrice

/-- The names of the scheduled jobs, each once, in byte order. -/
def jobs (s : Scheduler) : List String :=
  (s.entries.map (·.job.name)).eraseDups.mergeSort (fun a b => decide (a ≤ b))

/-- The run the job named `name` makes when it fires at `now`, in the zone `z` the scheduler
loaded; none when no such job is scheduled. -/
def requestAt (s : Scheduler) (z : Zone) (name : String) (now : Instant) : Option PassRequest :=
  (s.entries.find? (·.job.name = name)).map (·.task.request z now)

variable {σ : Type}

/-- Runs the start-up passes at `now` with `run`, which gives each pass's failure, if any: the
scheduler after, the webhooks pinged, and the world after. -/
def start (run : PassTask → σ → Option Failure × σ) (s : Scheduler) (w : σ) (now : Int) :
    Scheduler × List String × σ :=
  let step := fun (acc : JobBoard × List String × σ) (p : Job × PassTask) =>
    let (b, hooks, w) := acc
    let (failure, w) := run p.2 w
    let e := match failure with
      | some f => JobEnd.failed f
      | none => JobEnd.done
    let (b, hook) := b.execute p.1 e now
    (b, hooks ++ hook.toList, w)
  let (b, hooks, w) := s.startup.foldl step (s.board, [], w)
  ({ s with board := b }, hooks, w)

end Scheduler

end SwapArchive
