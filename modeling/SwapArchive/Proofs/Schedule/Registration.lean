import Mathlib
import SwapArchive.Schedule.Scheduler
import SwapArchive.Proofs.Config.Validation

/-!
# Registering the scheduled passes

`Scheduler.register` is laid out as a list of actions (`Scheduler.steps`), one per pass, each with
its effect on the scheduler as one equation; the registration follows by induction over the list,
carried by the invariant `Scheduler.Registered`. When every planned pass (`Scheduler.Planned`) has
a schedule that reads, the registration succeeds: the job names are exactly those of the planned
passes, each listed once, every scheduled job is its own pass's job on that pass's schedule and
fires that pass's run, and the start-up list holds the start-up passes. Otherwise it stops at the
first planned pass whose schedule does not read, with the fault it gives (`ScheduleFault.ofCron`).
A job's name tells its pass: `PassTask.jobName` is injective, by its last two characters.
-/

namespace SwapArchive

set_option autoImplicit false

/-! ## Running a setup step -/

namespace ScheduleM

/-- A setup step run from `s`: its outcome and the scheduler after. -/
def exec {α : Type} (x : ScheduleM α) (s : Scheduler) : Except ScheduleFault α × Scheduler :=
  (x.run.run s).run

variable {α β : Type}

theorem exec_bind_of_ok {x : ScheduleM α} {f : α → ScheduleM β} {s s' : Scheduler} {a : α}
    (h : exec x s = (.ok a, s')) : exec (x >>= f) s = exec (f a) s' := by
  simp only [exec] at h ⊢
  simp only [ExceptT.run_bind, StateT.run_bind, Id.run_bind, h]

theorem exec_bind_of_error {x : ScheduleM α} {f : α → ScheduleM β} {s s' : Scheduler}
    {e : ScheduleFault} (h : exec x s = (.error e, s')) : exec (x >>= f) s = (.error e, s') := by
  simp only [exec] at h ⊢
  simp only [ExceptT.run_bind, StateT.run_bind, Id.run_bind, h, StateT.run_pure, Id.run_pure]

end ScheduleM

/-- The fault a schedule that does not read stops the registration with. -/
def ScheduleFault.ofCron (job spec : String) : CronFault → ScheduleFault
  | .invalid r => .cannotSchedule job spec r
  | .unterminatedZone => .crash

namespace Scheduler

open ScheduleM

/-! ## One action -/

section Actions

variable {name spec webhook : String} {task : PassTask} {s : Scheduler}

theorem exec_add_blank (h : Clean.trim spec = "") :
    exec (add name spec webhook task) s = (.ok (), s) := by
  simp only [exec, add, h]
  rfl

theorem exec_add_ok {sched : CronSchedule} (h : Clean.trim spec ≠ "")
    (hp : Cron.parse spec = .ok sched) :
    exec (add name spec webhook task) s =
      (.ok (), { s with board := s.board.register name
                        entries := s.entries ++
                          [⟨{ name := name, timeout := timeout task, webhook := webhook }, task,
                            sched⟩] }) := by
  simp only [exec, add, h, hp]
  rfl

theorem exec_add_error {f : CronFault} (h : Clean.trim spec ≠ "")
    (hp : Cron.parse spec = .error f) :
    exec (add name spec webhook task) s =
      (.error (ScheduleFault.ofCron name spec f), { s with board := s.board.register name }) := by
  cases f <;> simp only [exec, add, h, hp] <;> rfl

theorem exec_addStartup :
    exec (addStartup name webhook task) s =
      (.ok (), { s with board := s.board.register name
                        startup := s.startup ++
                          [({ name := name, timeout := timeout task, webhook := webhook }, task)] }) :=
  rfl

end Actions

end Scheduler

/-! ## Job names -/

namespace PassTask

/-- The name of a pass's job: the source's kind, then the pass. -/
def jobName : PassTask → String
  | .liveTail k => k ++ "_live_tail"
  | .retryPending k => k ++ "_pending_retry"
  | .backfill k => k ++ "_backfill"
  | .reconcile k => k ++ "_reconcile"
  | .forwardHistory k => k ++ "_historical_forward"
  | .chainflipSync => "chainflip_sync"
  | .closingPrice => "btc_closing_price"

/-- The last two characters of a name, last first. -/
def lastTwo (n : String) : List Char := n.toList.reverse.take 2

theorem lastTwo_append (k t : String) (ht : 2 ≤ t.length) : lastTwo (k ++ t) = lastTwo t := by
  have : 2 ≤ t.toList.reverse.length := by rw [List.length_reverse, String.length_toList]; exact ht
  simp only [lastTwo, String.toList_append, List.reverse_append, List.take_append_of_le_length this]

/-- The last two characters of each pass's job name, which tell the passes apart. -/
def nameEnd : PassTask → List Char
  | .liveTail _ => ['l', 'i']
  | .retryPending _ => ['y', 'r']
  | .backfill _ => ['l', 'l']
  | .reconcile _ => ['e', 'l']
  | .forwardHistory _ => ['d', 'r']
  | .chainflipSync => ['c', 'n']
  | .closingPrice => ['e', 'c']

theorem lastTwo_jobName (t : PassTask) : lastTwo t.jobName = t.nameEnd := by
  cases t <;> simp (disch := decide) only [jobName, nameEnd, lastTwo_append] <;> decide

/-- Different passes have different job names. -/
theorem jobName_injective : Function.Injective jobName := by
  intro t u h
  have hend : t.nameEnd = u.nameEnd := by rw [← lastTwo_jobName, ← lastTwo_jobName, h]
  cases t <;> cases u <;> simp_all [nameEnd, jobName]

end PassTask

/-! ## The registration as a list of actions -/

namespace Scheduler

open ScheduleM

/-- The schedule of a pass, the closing price's pinned to UTC; start-up passes have none. -/
def specOf (c : AppConfig) : PassTask → String
  | .liveTail _ => c.schedule.liveTail
  | .retryPending _ => c.schedule.pendingRetry
  | .backfill _ => c.schedule.backfill
  | .reconcile _ => c.schedule.reconcile
  | .forwardHistory _ => ""
  | .chainflipSync => c.schedule.chainflipSync
  | .closingPrice => utcSpec c.schedule.closingPrice

/-- The uptime webhook of a pass; forward history has none. -/
def hookOf (c : AppConfig) : PassTask → String
  | .liveTail _ => c.webhooks.liveTail
  | .retryPending _ => c.webhooks.pendingRetry
  | .backfill _ => c.webhooks.backfill
  | .reconcile _ => c.webhooks.reconcile
  | .forwardHistory _ => ""
  | .chainflipSync => c.webhooks.chainflipSync
  | .closingPrice => c.webhooks.closingPrice

/-- The job of a pass: its name, timeout and webhook. -/
def jobOf (c : AppConfig) (t : PassTask) : Job :=
  { name := t.jobName, timeout := timeout t, webhook := hookOf c t }

/-- One action of the registration. -/
inductive Step where
  /-- Schedule a pass. -/
  | schedule (t : PassTask)
  /-- Add a pass to those run on start. -/
  | startup (t : PassTask)

/-- Carries out one action of the registration. -/
def Step.run (c : AppConfig) : Step → ScheduleM Unit
  | .schedule t => add t.jobName (specOf c t) (hookOf c t) t
  | .startup t => addStartup t.jobName (hookOf c t) t

/-- The pass an action schedules: none for a blank schedule or a start-up pass. -/
def Step.scheduled (c : AppConfig) : Step → Option PassTask
  | .schedule t => if Clean.trim (specOf c t) = "" then none else some t
  | .startup _ => none

/-- The pass an action adds to those run on start. -/
def Step.startsUp : Step → Option PassTask
  | .schedule _ => none
  | .startup t => some t

/-- The actions for one source, in order. -/
def stepsOf (c : AppConfig) (src : Source) : List Step :=
  if src.kind = Source.chainflip then [.schedule .chainflipSync]
  else [.schedule (.liveTail src.kind), .schedule (.retryPending src.kind),
      .schedule (.backfill src.kind)] ++
    (if src.reconcile then [.schedule (.reconcile src.kind)] else []) ++
    (if c.ingestion.backfillOnStart then [.startup (.backfill src.kind)] else []) ++
    (if c.ingestion.forwardHistoryOnStart then [.startup (.forwardHistory src.kind)] else [])

/-- Every action of the registration, in order. -/
def steps (c : AppConfig) : List Step := c.sources.flatMap (stepsOf c) ++ [.schedule .closingPrice]

/-- The passes the registration schedules, in the order it schedules them. -/
def registrationOrder (c : AppConfig) : List PassTask := (steps c).filterMap (Step.scheduled c)

/-- The passes the registration adds to those run on start, in order. -/
def startupOrder (c : AppConfig) : List PassTask := (steps c).filterMap Step.startsUp

theorem addSource_eq (c : AppConfig) (src : Source) :
    addSource c src = forM (stepsOf c src) (Step.run c) := by
  unfold addSource stepsOf
  by_cases hk : src.kind = Source.chainflip
  · simp [hk, Step.run, PassTask.jobName, specOf, hookOf]
  · by_cases hr : src.reconcile <;> by_cases hb : c.ingestion.backfillOnStart <;>
      by_cases hf : c.ingestion.forwardHistoryOnStart <;>
      simp [hk, hr, hb, hf, Step.run, PassTask.jobName, specOf, hookOf]

theorem forIn_addSource (c : AppConfig) (srcs : List Source) :
    (forIn srcs PUnit.unit fun src _ => do
        addSource c src
        pure (ForInStep.yield PUnit.unit) : ScheduleM PUnit) =
      forM (srcs.flatMap (stepsOf c)) (Step.run c) := by
  induction srcs with
  | nil => simp
  | cons src rest ih =>
    -- a plain `simp` would turn the loop into a `foldlM`; peel one source instead
    simp only [List.forIn_cons, bind_assoc, pure_bind, ih]
    rw [addSource_eq, List.flatMap_cons, List.forM_append]

/-- The registration is its list of actions, run in order. -/
theorem register_eq (c : AppConfig) : register c = forM (steps c) (Step.run c) := by
  unfold register steps
  rw [forIn_addSource, List.forM_append]
  simp [Step.run, PassTask.jobName, specOf, hookOf, closingPriceJob]

/-! ## The invariant of the registration -/

/-- What the registration keeps true of the scheduled jobs `es` once it has scheduled the passes
`ts`: each is the job of a pass of `ts` on that pass's schedule, and every pass of `ts` is
scheduled. -/
structure Registered (c : AppConfig) (es : List ScheduledJob) (ts : List PassTask) : Prop where
  mem : ∀ e ∈ es,
    e.task ∈ ts ∧ e.job = jobOf c e.task ∧ Cron.parse (specOf c e.task) = .ok e.schedule
  complete : ∀ t ∈ ts, ∃ e ∈ es, e.task = t

namespace Registered

variable {c : AppConfig} {es : List ScheduledJob} {ts : List PassTask}

theorem nil : Registered c [] [] := ⟨by simp, by simp⟩

theorem name_eq (h : Registered c es ts) {e : ScheduledJob} (he : e ∈ es) :
    e.job.name = e.task.jobName := by
  rw [(h.mem e he).2.1]
  rfl

/-- Scheduling one more pass. -/
theorem add (h : Registered c es ts) {t : PassTask} {sched : CronSchedule}
    (hp : Cron.parse (specOf c t) = .ok sched) :
    Registered c (es ++ [⟨jobOf c t, t, sched⟩]) (ts ++ [t]) where
  mem := by
    intro e he
    rcases List.mem_append.1 he with he | he
    · have hold := h.mem e he
      exact ⟨List.mem_append_left _ hold.1, hold.2⟩
    · rw [List.mem_singleton.1 he]
      exact ⟨List.mem_append_right _ (List.mem_singleton_self t), rfl, hp⟩
  complete := by
    intro u hu
    rcases List.mem_append.1 hu with hu | hu
    · obtain ⟨e, he, rfl⟩ := h.complete u hu
      exact ⟨e, List.mem_append_left _ he, rfl⟩
    · rw [List.mem_singleton.1 hu]
      exact ⟨_, List.mem_append_right _ (List.mem_singleton_self _), rfl⟩

theorem mem_names_iff (h : Registered c es ts) (n : String) :
    n ∈ es.map (·.job.name) ↔ ∃ t ∈ ts, t.jobName = n := by
  rw [List.mem_map]
  constructor
  · rintro ⟨e, he, rfl⟩
    exact ⟨e.task, (h.mem e he).1, (h.name_eq he).symm⟩
  · rintro ⟨t, ht, rfl⟩
    obtain ⟨e, he, rfl⟩ := h.complete t ht
    exact ⟨e, he, h.name_eq he⟩

/-- The job found under a pass's name runs that pass. -/
theorem find?_jobName (h : Registered c es ts) {t : PassTask} (ht : t ∈ ts) :
    (es.find? (·.job.name = t.jobName)).map (·.task) = some t := by
  obtain ⟨e, he, rfl⟩ := h.complete t ht
  cases hf : es.find? (·.job.name = e.task.jobName) with
  | none =>
    have := (List.find?_eq_none.1 hf) e he
    simp [h.name_eq he] at this
  | some e' =>
    have hname : e'.job.name = e.task.jobName := by simpa using List.find?_some hf
    have hsame : e'.task = e.task :=
      PassTask.jobName_injective ((h.name_eq (List.mem_of_find?_eq_some hf)).symm.trans hname)
    simp [hsame]

end Registered

/-! ## One action, and runs of actions -/

section Runs

variable {c : AppConfig} {t : PassTask} {s : Scheduler} {ts : List PassTask}

theorem exec_run_blank (hb : Clean.trim (specOf c t) = "") :
    exec (Step.run c (.schedule t)) s = (.ok (), s) :=
  exec_add_blank hb

theorem exec_run_schedule {sched : CronSchedule} (hb : Clean.trim (specOf c t) ≠ "")
    (hp : Cron.parse (specOf c t) = .ok sched) :
    exec (Step.run c (.schedule t)) s =
      (.ok (), { s with board := s.board.register t.jobName
                        entries := s.entries ++ [⟨jobOf c t, t, sched⟩] }) :=
  exec_add_ok hb hp

/-- Scheduling a pass whose schedule reads keeps the invariant and the start-up list. -/
theorem Registered.exec_schedule (h : Registered c s.entries ts) {sched : CronSchedule}
    (hb : Clean.trim (specOf c t) ≠ "") (hp : Cron.parse (specOf c t) = .ok sched) :
    ∃ s', exec (Step.run c (.schedule t)) s = (.ok (), s') ∧
      Registered c s'.entries (ts ++ [t]) ∧ s'.startup = s.startup :=
  ⟨_, exec_run_schedule hb hp, h.add hp, rfl⟩

theorem exec_run_error {f : CronFault} (hb : Clean.trim (specOf c t) ≠ "")
    (hf : Cron.parse (specOf c t) = .error f) :
    ∃ s', exec (Step.run c (.schedule t)) s =
      (.error (ScheduleFault.ofCron t.jobName (specOf c t) f), s') :=
  ⟨_, exec_add_error hb hf⟩

/-- Adding a start-up pass leaves the scheduled jobs and appends that pass's job. -/
theorem exec_run_startup :
    ∃ s', exec (Step.run c (.startup t)) s = (.ok (), s') ∧
      s'.entries = s.entries ∧ s'.startup = s.startup ++ [(jobOf c t, t)] :=
  ⟨_, exec_addStartup, rfl, rfl⟩

theorem exec_forM_nil (s : Scheduler) :
    exec (forM ([] : List Step) (Step.run c)) s = (.ok (), s) := rfl

theorem exec_forM_cons (x : Step) (L : List Step) :
    exec (forM (x :: L) (Step.run c)) s = exec (Step.run c x >>= fun _ => forM L (Step.run c)) s := by
  rw [List.forM_cons]

theorem filterMap_scheduled_blank (L : List Step) (hb : Clean.trim (specOf c t) = "") :
    (Step.schedule t :: L).filterMap (Step.scheduled c) = L.filterMap (Step.scheduled c) := by
  simp [Step.scheduled, hb]

theorem filterMap_scheduled_of_ne (L : List Step) (hb : Clean.trim (specOf c t) ≠ "") :
    (Step.schedule t :: L).filterMap (Step.scheduled c) = t :: L.filterMap (Step.scheduled c) := by
  simp [Step.scheduled, hb]

@[simp]
theorem filterMap_scheduled_startup (L : List Step) :
    (Step.startup t :: L).filterMap (Step.scheduled c) = L.filterMap (Step.scheduled c) := rfl

@[simp]
theorem filterMap_startsUp_schedule (L : List Step) :
    (Step.schedule t :: L).filterMap Step.startsUp = L.filterMap Step.startsUp := rfl

@[simp]
theorem filterMap_startsUp_startup (L : List Step) :
    (Step.startup t :: L).filterMap Step.startsUp = t :: L.filterMap Step.startsUp := rfl

end Runs

/-- A run of actions whose scheduled passes all have schedules that read succeeds; it schedules
those passes, keeping the invariant, and adds its start-up passes in order. -/
theorem exec_forM_of_parse_ok (c : AppConfig) (L : List Step) :
    ∀ (s : Scheduler) (ts : List PassTask), Registered c s.entries ts →
      (∀ t ∈ L.filterMap (Step.scheduled c), ∃ sched, Cron.parse (specOf c t) = .ok sched) →
      ∃ s', exec (forM L (Step.run c)) s = (.ok (), s') ∧
        Registered c s'.entries (ts ++ L.filterMap (Step.scheduled c)) ∧
        s'.startup = s.startup ++ (L.filterMap Step.startsUp).map fun t => (jobOf c t, t) := by
  induction L with
  | nil =>
    intro s ts h _
    exact ⟨s, exec_forM_nil s, by simpa using h, by simp⟩
  | cons x L ih =>
    intro s ts h hp
    cases x with
    | schedule t =>
      by_cases hb : Clean.trim (specOf c t) = ""
      · rw [filterMap_scheduled_blank L hb] at hp ⊢
        obtain ⟨s', hrun, hreg, hst⟩ := ih s ts h hp
        refine ⟨s', ?_, hreg, by simpa using hst⟩
        rw [exec_forM_cons, exec_bind_of_ok (exec_run_blank hb), hrun]
      · rw [filterMap_scheduled_of_ne L hb] at hp ⊢
        obtain ⟨sched, hsched⟩ := hp t List.mem_cons_self
        obtain ⟨s₁, hrun₁, hreg₁, hst₁⟩ := h.exec_schedule hb hsched
        obtain ⟨s', hrun, hreg, hst⟩ :=
          ih s₁ (ts ++ [t]) hreg₁ fun u hu => hp u (List.mem_cons_of_mem _ hu)
        refine ⟨s', ?_, by simpa using hreg, by simpa [hst₁] using hst⟩
        rw [exec_forM_cons, exec_bind_of_ok hrun₁, hrun]
    | startup t =>
      rw [filterMap_scheduled_startup] at hp ⊢
      obtain ⟨s₁, hrun₁, hent₁, hst₁⟩ := exec_run_startup (c := c) (t := t) (s := s)
      obtain ⟨s', hrun, hreg, hst⟩ := ih s₁ ts (hent₁ ▸ h) hp
      refine ⟨s', ?_, hreg, ?_⟩
      · rw [exec_forM_cons, exec_bind_of_ok hrun₁, hrun]
      · rw [hst, hst₁]
        simp

/-- A run of actions stops at the first scheduled pass whose schedule does not read, with the
fault that schedule gives. -/
theorem exec_forM_of_parse_error (c : AppConfig) {t : PassTask} {f : CronFault}
    (hf : Cron.parse (specOf c t) = .error f) (L : List Step) :
    ∀ (pre post : List PassTask) (s : Scheduler),
      L.filterMap (Step.scheduled c) = pre ++ t :: post →
      (∀ u ∈ pre, ∃ sched, Cron.parse (specOf c u) = .ok sched) →
      (exec (forM L (Step.run c)) s).1 = .error (ScheduleFault.ofCron t.jobName (specOf c t) f) := by
  induction L with
  | nil =>
    intro pre post s hL _
    simp at hL
  | cons x L ih =>
    intro pre post s hL hpre
    cases x with
    | schedule u =>
      by_cases hb : Clean.trim (specOf c u) = ""
      · rw [filterMap_scheduled_blank L hb] at hL
        rw [exec_forM_cons, exec_bind_of_ok (exec_run_blank hb)]
        exact ih pre post s hL hpre
      · rw [filterMap_scheduled_of_ne L hb] at hL
        cases pre with
        | nil =>
          obtain ⟨rfl, -⟩ := List.cons.inj hL
          obtain ⟨s₁, hrun₁⟩ := exec_run_error (s := s) hb hf
          rw [exec_forM_cons, exec_bind_of_error hrun₁]
        | cons p pre =>
          obtain ⟨rfl, hrest⟩ := List.cons.inj hL
          obtain ⟨sched, hsched⟩ := hpre u List.mem_cons_self
          rw [exec_forM_cons, exec_bind_of_ok (exec_run_schedule hb hsched)]
          exact ih pre post _ hrest fun v hv => hpre v (List.mem_cons_of_mem _ hv)
    | startup u =>
      obtain ⟨s₁, hrun₁, -, -⟩ := exec_run_startup (c := c) (t := u) (s := s)
      rw [exec_forM_cons, exec_bind_of_ok hrun₁]
      exact ih pre post _ hL hpre

/-! ## The scheduler after a whole run -/

/-- Each job name is listed once, whatever was scheduled. -/
theorem jobs_nodup (s : Scheduler) : s.jobs.Nodup :=
  List.nodup_mergeSort.2 (ConfigCheck.nodup_eraseDups _)

namespace Registered

variable {c : AppConfig} {s : Scheduler} {ts : List PassTask}

theorem mem_jobs_iff (h : Registered c s.entries ts) (n : String) :
    n ∈ s.jobs ↔ ∃ t ∈ ts, t.jobName = n := by
  rw [jobs, List.mem_mergeSort, List.mem_eraseDups]
  exact h.mem_names_iff n

/-- The job scheduled under a pass's name makes that pass's run. -/
theorem requestAt_jobName (h : Registered c s.entries ts) {t : PassTask} (ht : t ∈ ts)
    (z : Zone) (now : Instant) : s.requestAt z t.jobName now = some (t.request z now) := by
  have hfind := congrArg (Option.map (PassTask.request z now)) (h.find?_jobName ht)
  rw [Option.map_map] at hfind
  exact hfind

end Registered

theorem create_fresh {c : AppConfig} {s : Scheduler} (h : create c = .ok s) :
    s.entries = [] ∧ s.startup = [] := by
  simp only [create] at h
  cases hz : Zone.load (if c.ingestion.timezone = "" then "UTC" else c.ingestion.timezone) with
  | ok z =>
    rw [hz] at h
    cases h
    exact ⟨rfl, rfl⟩
  | error e =>
    rw [hz] at h
    cases h

end Scheduler

/-! ## The planned passes -/

namespace Clean

theorem dropSpace_eq_nil_iff (cs : List Char) :
    dropSpace cs = [] ↔ ∀ c ∈ cs, CharClass.isSpace c = true := by
  induction cs with
  | nil => simp [dropSpace]
  | cons c cs ih =>
    cases hc : CharClass.isSpace c
    · simp [dropSpace, hc]
    · simp [dropSpace, hc, ih]

/-- What is left after dropping the leading white space is all white space only when empty. -/
theorem forall_isSpace_dropSpace_iff (cs : List Char) :
    (∀ c ∈ dropSpace cs, CharClass.isSpace c = true) ↔ dropSpace cs = [] := by
  induction cs with
  | nil => simp [dropSpace]
  | cons c cs ih =>
    cases hc : CharClass.isSpace c
    · simp [dropSpace, hc]
    · simpa [dropSpace, hc] using ih

theorem trim_eq_empty_iff_dropSpace (s : String) :
    trim s = "" ↔ dropSpace (dropSpace s.toList).reverse = [] := by
  rw [trim, String.ofList_eq_empty_iff, List.reverse_eq_nil_iff]

/-- A text trims to nothing exactly when it is all white space. -/
theorem trim_eq_empty_iff (s : String) : trim s = "" ↔ ∀ c ∈ s.toList, CharClass.isSpace c = true := by
  rw [trim_eq_empty_iff_dropSpace, dropSpace_eq_nil_iff]
  simp only [List.mem_reverse]
  rw [forall_isSpace_dropSpace_iff, dropSpace_eq_nil_iff]

theorem trim_trim_eq_empty_iff (s : String) : trim (trim s) = "" ↔ trim s = "" := by
  rw [trim_eq_empty_iff, trim_eq_empty_iff_dropSpace, trim, String.toList_ofList]
  simp only [List.mem_reverse]
  exact forall_isSpace_dropSpace_iff _

end Clean

namespace Scheduler

/-- Pinning a schedule to UTC leaves it blank exactly when it was blank. -/
theorem trim_utcSpec_eq_empty_iff (spec : String) :
    Clean.trim (utcSpec spec) = "" ↔ Clean.trim spec = "" := by
  simp only [utcSpec]
  split_ifs with h
  · exact Clean.trim_trim_eq_empty_iff spec
  · have hne : Clean.trim spec ≠ "" := fun he => h (Or.inl he)
    have hpin : Clean.trim ("CRON_TZ=UTC " ++ Clean.trim spec) ≠ "" := by
      rw [ne_eq, Clean.trim_eq_empty_iff, String.toList_append]
      intro hall
      exact absurd (hall 'C' (List.mem_append_left _ (by decide))) (by decide +kernel)
    exact iff_of_false hpin hne

end Scheduler

namespace Source

/-- The passes scheduled for a source: the Chainflip sync for Chainflip; for any other kind its
live tail, pending retry and backfill, and its reconciliation when the source is reconciled. -/
def Schedules (src : Source) : PassTask → Prop
  | .liveTail k | .retryPending k | .backfill k => src.kind = k ∧ k ≠ Source.chainflip
  | .reconcile k => src.kind = k ∧ k ≠ Source.chainflip ∧ src.reconcile = true
  | .forwardHistory _ | .closingPrice => False
  | .chainflipSync => src.kind = Source.chainflip

/-- The passes a source adds to those run on start: for any kind but Chainflip, its backfill when
backfills run on start and its forward history when forward history does. -/
def StartsUp (c : AppConfig) (src : Source) : PassTask → Prop
  | .backfill k => src.kind = k ∧ k ≠ Source.chainflip ∧ c.ingestion.backfillOnStart = true
  | .forwardHistory k =>
    src.kind = k ∧ k ≠ Source.chainflip ∧ c.ingestion.forwardHistoryOnStart = true
  | _ => False

end Source

namespace Scheduler

open ScheduleM

/-- The passes a configuration schedules: those of its sources and the closing price, each left
out when its schedule is blank. -/
def Planned (c : AppConfig) (t : PassTask) : Prop :=
  ((∃ src ∈ c.sources, src.Schedules t) ∨ t = .closingPrice) ∧ Clean.trim (specOf c t) ≠ ""

/-- The passes a configuration runs on start. -/
def StartsUp (c : AppConfig) (t : PassTask) : Prop := ∃ src ∈ c.sources, src.StartsUp c t

section Plan

variable {c : AppConfig} {t : PassTask}

theorem mem_stepsOf_schedule_iff (src : Source) : Step.schedule t ∈ stepsOf c src ↔ src.Schedules t := by
  unfold stepsOf
  by_cases hk : src.kind = Source.chainflip
  · cases t <;> simp [hk, Source.Schedules] <;> grind
  · cases t <;> simp [hk, Source.Schedules, List.mem_ite_nil_right] <;> grind

theorem mem_stepsOf_startup_iff (src : Source) :
    Step.startup t ∈ stepsOf c src ↔ src.StartsUp c t := by
  unfold stepsOf
  by_cases hk : src.kind = Source.chainflip
  · cases t <;> simp [hk, Source.StartsUp] <;> grind
  · cases t <;> simp [hk, Source.StartsUp, List.mem_ite_nil_right] <;> grind

theorem mem_steps_schedule_iff :
    Step.schedule t ∈ steps c ↔ (∃ src ∈ c.sources, src.Schedules t) ∨ t = .closingPrice := by
  simp [steps, List.mem_flatMap, mem_stepsOf_schedule_iff]

theorem mem_steps_startup_iff : Step.startup t ∈ steps c ↔ StartsUp c t := by
  simp [steps, List.mem_flatMap, mem_stepsOf_startup_iff, StartsUp]

theorem scheduled_eq_some_iff (x : Step) :
    Step.scheduled c x = some t ↔ x = .schedule t ∧ Clean.trim (specOf c t) ≠ "" := by
  cases x with
  | schedule u =>
    simp only [Step.scheduled, Step.schedule.injEq]
    constructor
    · intro h
      split_ifs at h with hb
      cases h
      exact ⟨rfl, hb⟩
    · rintro ⟨rfl, hb⟩
      simp [hb]
  | startup u => simp [Step.scheduled]

theorem startsUp_eq_some_iff (x : Step) : Step.startsUp x = some t ↔ x = .startup t := by
  cases x <;> simp [Step.startsUp]

/-- The registration schedules exactly the planned passes. -/
theorem mem_registrationOrder_iff : t ∈ registrationOrder c ↔ Planned c t := by
  simp only [registrationOrder, List.mem_filterMap, scheduled_eq_some_iff]
  constructor
  · rintro ⟨x, hx, rfl, hb⟩
    exact ⟨mem_steps_schedule_iff.1 hx, hb⟩
  · rintro ⟨hx, hb⟩
    exact ⟨_, mem_steps_schedule_iff.2 hx, rfl, hb⟩

theorem mem_startupOrder_iff : t ∈ startupOrder c ↔ StartsUp c t := by
  simp only [startupOrder, List.mem_filterMap, startsUp_eq_some_iff]
  constructor
  · rintro ⟨x, hx, rfl⟩
    exact mem_steps_startup_iff.1 hx
  · intro h
    exact ⟨_, mem_steps_startup_iff.2 h, rfl⟩

/-- The closing price is planned when its schedule, before pinning to UTC, is not blank. -/
theorem planned_closingPrice_iff :
    Planned c .closingPrice ↔ Clean.trim c.schedule.closingPrice ≠ "" := by
  simp [Planned, specOf, trim_utcSpec_eq_empty_iff]

end Plan

/-! ## The registration -/

section Register

variable {c : AppConfig} {s₀ : Scheduler}

/-- From a fresh scheduler, a registration whose planned passes all have schedules that read
succeeds, with the invariant over the planned passes and the start-up passes added in order. -/
theorem exec_register_of_parse_ok (hcreate : create c = .ok s₀)
    (hparse : ∀ t, Planned c t → ∃ sched, Cron.parse (specOf c t) = .ok sched) :
    ∃ s, exec (register c) s₀ = (.ok (), s) ∧ Registered c s.entries (registrationOrder c) ∧
      s.startup = (startupOrder c).map fun t => (jobOf c t, t) := by
  obtain ⟨hent, hst⟩ := create_fresh hcreate
  have hreg₀ : Registered c s₀.entries [] := hent ▸ Registered.nil
  obtain ⟨s, hrun, hreg, hstart⟩ := exec_forM_of_parse_ok c (steps c) s₀ [] hreg₀
    fun t ht => hparse t (mem_registrationOrder_iff.1 ht)
  rw [List.nil_append] at hreg
  refine ⟨s, by rw [register_eq]; exact hrun, hreg, ?_⟩
  rw [hstart, hst, List.nil_append]
  rfl

theorem mem_startupJobs_iff (j : Job) (t : PassTask) :
    (j, t) ∈ (startupOrder c).map (fun u => (jobOf c u, u)) ↔ StartsUp c t ∧ j = jobOf c t := by
  simp only [List.mem_map, Prod.mk.injEq, mem_startupOrder_iff]
  constructor
  · rintro ⟨u, hu, rfl, rfl⟩
    exact ⟨hu, rfl⟩
  · rintro ⟨ht, rfl⟩
    exact ⟨t, ht, rfl, rfl⟩

end Register

/-- Registering the passes of a configuration on a fresh scheduler. When every planned pass has
a schedule that reads, the registration succeeds: its jobs are the planned passes, one a name,
each the job of its own pass on that pass's schedule and firing that pass's run, and the passes
run on start are the start-up passes. Otherwise it stops at the first planned pass whose
schedule does not read, with the fault that schedule gives. -/
theorem register_schedules_planned_passes (c : AppConfig) (s₀ : Scheduler)
    (hcreate : create c = .ok s₀) :
    ((∀ t, Planned c t → ∃ sched, Cron.parse (specOf c t) = .ok sched) →
      (exec (register c) s₀).1 = .ok () ∧
      (exec (register c) s₀).2.jobs.Nodup ∧
      (∀ n, n ∈ (exec (register c) s₀).2.jobs ↔ ∃ t, Planned c t ∧ t.jobName = n) ∧
      (∀ e ∈ (exec (register c) s₀).2.entries,
        e.job = jobOf c e.task ∧ Cron.parse (specOf c e.task) = .ok e.schedule) ∧
      (∀ t, Planned c t → ∀ z now,
        (exec (register c) s₀).2.requestAt z t.jobName now = some (t.request z now)) ∧
      ∀ j t, (j, t) ∈ (exec (register c) s₀).2.startup ↔ StartsUp c t ∧ j = jobOf c t) ∧
    ∀ pre t post f, registrationOrder c = pre ++ t :: post →
      (∀ u ∈ pre, ∃ sched, Cron.parse (specOf c u) = .ok sched) →
      Cron.parse (specOf c t) = .error f →
      (exec (register c) s₀).1 = .error (ScheduleFault.ofCron t.jobName (specOf c t) f) := by
  refine ⟨fun hparse => ?_, fun pre t post f horder hpre hf => ?_⟩
  · obtain ⟨s, hrun, hreg, hstart⟩ := exec_register_of_parse_ok hcreate hparse
    rw [hrun]
    refine ⟨rfl, jobs_nodup s, fun n => ?_, fun e he => (hreg.mem e he).2,
      fun t ht z now => hreg.requestAt_jobName (mem_registrationOrder_iff.2 ht) z now,
      fun j t => ?_⟩
    · rw [hreg.mem_jobs_iff]
      simp only [mem_registrationOrder_iff]
    · rw [hstart]
      exact mem_startupJobs_iff j t
  · rw [register_eq]
    exact exec_forM_of_parse_error c hf (steps c) pre post s₀ horder hpre

/-- One reconciled native source with every schedule a descriptor: the registration succeeds. -/
theorem register_native_source_succeeds :
    let c : AppConfig :=
      { sources := [{ kind := "native", reconcile := true }]
        schedule := { liveTail := "@every 5m", pendingRetry := "@every 5m", backfill := "@every 1h"
                      reconcile := "@every 12h", closingPrice := "@every 24h" } }
    create c = .ok { zone := "UTC" } ∧ (exec (register c) { zone := "UTC" }).1 = .ok () := by
  intro c
  have h5m : Cron.parse "@every 5m" = .ok (.every 300) := by decide +kernel
  have h1h : Cron.parse "@every 1h" = .ok (.every 3600) := by decide +kernel
  have h12h : Cron.parse "@every 12h" = .ok (.every 43200) := by decide +kernel
  have h24h : Cron.parse (utcSpec "@every 24h") = .ok (.every 86400) := by decide +kernel
  have hparse : ∀ t, Planned c t → ∃ sched, Cron.parse (specOf c t) = .ok sched := by
    intro t ht
    cases t with
    | liveTail k => exact ⟨_, h5m⟩
    | retryPending k => exact ⟨_, h5m⟩
    | backfill k => exact ⟨_, h1h⟩
    | reconcile k => exact ⟨_, h12h⟩
    | forwardHistory k => simp [Planned, Source.Schedules] at ht
    | chainflipSync => exact absurd ((Clean.trim_eq_empty_iff _).2 (by simp [c, specOf])) ht.2
    | closingPrice => exact ⟨_, h24h⟩
  exact ⟨rfl, ((register_schedules_planned_passes c _ rfl).1 hparse).1⟩

/-- A live-tail schedule that is a bare zone prefix: the native live tail is the first planned
pass, and reading its schedule runs past the end of the text, so the registration crashes
rather than refusing the job. -/
theorem register_bare_zone_prefix_crashes :
    let c : AppConfig := { sources := [{ kind := "native" }], schedule := { liveTail := "TZ=" } }
    create c = .ok { zone := "UTC" } ∧ registrationOrder c = [.liveTail "native"] ∧
      (exec (register c) { zone := "UTC" }).1 = .error .crash := by
  intro c
  have hf : Cron.parse (specOf c (.liveTail "native")) = .error .unterminatedZone := by
    decide +kernel
  have horder : registrationOrder c = [.liveTail "native"] := by decide +kernel
  refine ⟨rfl, horder, ?_⟩
  rw [register_eq]
  exact exec_forM_of_parse_error c hf (steps c) [] [] _ horder (by simp)

end Scheduler

end SwapArchive
