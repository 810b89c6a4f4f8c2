import Mathlib
import SwapArchive.Http.Health

/-!
# What the job board keeps of a job's history

`JobBoard.replay` runs a list of `BoardCall`s (register, start, set next run, complete) on an empty
board. A job's history is its starts and completions from the call that put it on the board
(`BoardCall.runs`), and every status follows it (`JobStatus.Follows`): successes and failures are
its completions, failures in a row those after the last success, the last failure's text and
`error_type` kept exactly while the last completion failed, the state pending before any start or
completion, running after a start and else the last outcome. The invariant `JobBoard.Tracks` is
kept by each call and so by every run. The jobs endpoint then answers 503 exactly when a job has
run past the stall threshold, or a failing live-tail job has failed more than twice in a row.
-/

namespace SwapArchive

set_option autoImplicit false

/-- A start or a completion of a job, as its history keeps it. -/
inductive RunEvent where
  | started (time : Int)
  | ended (failure : Option Failure)

namespace RunEvent

/-- The outcome of a completion: its failure, if it failed. -/
def outcome? : RunEvent → Option (Option Failure)
  | .started _ => none
  | .ended f => some f

/-- The time of a start. -/
def start? : RunEvent → Option Int
  | .started t => some t
  | .ended _ => none

/-- The state the event leaves a job in. -/
def state : RunEvent → JobState
  | .started _ => .running
  | .ended none => .success
  | .ended (some _) => .failed

/-- The outcomes of the completions among the events, in order. -/
def outcomes (rs : List RunEvent) : List (Option Failure) := rs.filterMap outcome?

/-- The failed completions after the last successful one. -/
def failuresInRow (rs : List RunEvent) : Nat := ((outcomes rs).reverse.takeWhile Option.isSome).length

/-- The failure of the last completion, if it failed. -/
def lastFailure (rs : List RunEvent) : Option Failure := (outcomes rs).getLast?.bind id

/-- The time of the last start. -/
def lastStart (rs : List RunEvent) : Option Int := (rs.filterMap start?).getLast?

/-- The state after the events: pending before any, else the one the last leaves. -/
def stateAfter (rs : List RunEvent) : JobState := (rs.getLast?.map state).getD .pending

variable (rs : List RunEvent) (t : Int) (f : Option Failure)

@[simp] theorem outcomes_append_started : outcomes (rs ++ [.started t]) = outcomes rs := by
  simp [outcomes, outcome?]

@[simp] theorem outcomes_append_ended : outcomes (rs ++ [.ended f]) = outcomes rs ++ [f] := by
  simp [outcomes, outcome?]

@[simp] theorem failuresInRow_append_started : failuresInRow (rs ++ [.started t]) = failuresInRow rs := by
  simp [failuresInRow]

@[simp] theorem failuresInRow_append_ended :
    failuresInRow (rs ++ [.ended f]) = if f.isSome then failuresInRow rs + 1 else 0 := by
  cases f <;> simp [failuresInRow]

@[simp] theorem lastFailure_append_started : lastFailure (rs ++ [.started t]) = lastFailure rs := by
  simp [lastFailure]

@[simp] theorem lastFailure_append_ended : lastFailure (rs ++ [.ended f]) = f := by
  simp [lastFailure]

@[simp] theorem lastStart_append_started : lastStart (rs ++ [.started t]) = some t := by
  simp [lastStart, start?]

@[simp] theorem lastStart_append_ended : lastStart (rs ++ [.ended f]) = lastStart rs := by
  simp [lastStart, start?]

@[simp] theorem stateAfter_append (e : RunEvent) : stateAfter (rs ++ [e]) = e.state := by
  simp [stateAfter]

theorem stateAfter_ne_stalled : stateAfter rs ≠ .stalled := by
  unfold stateAfter
  rcases rs.getLast? with _ | ((_ | _) | (_ | _)) <;> simp [state]

theorem stateAfter_eq_running_iff : stateAfter rs = .running ↔ ∃ t, rs.getLast? = some (.started t) := by
  unfold stateAfter
  rcases rs.getLast? with _ | ((_ | _) | (_ | _)) <;> simp [state]

/-- A job running since `t` was last started at `t`. -/
theorem lastStart_of_getLast? {rs : List RunEvent} {t : Int} (h : rs.getLast? = some (.started t)) :
    lastStart rs = some t := by
  obtain ⟨ys, rfl⟩ := List.getLast?_eq_some_iff.1 h
  exact lastStart_append_started ys t

theorem ne_nil_of_stateAfter_eq_failed {rs : List RunEvent} (h : stateAfter rs = .failed) : rs ≠ [] := by
  rintro rfl
  cases h

end RunEvent

namespace JobBoard

/-- Merging keeps every key of both sides. -/
theorem merge_any_key (k : String) (into entries : List (String × Json)) :
    (merge into entries).any (·.1 = k) = (into.any (·.1 = k) || entries.any (·.1 = k)) := by
  induction entries generalizing into with
  | nil => simp [merge]
  | cons e es ih =>
    have hstep := ih (into.filter (·.1 ≠ e.1) ++ [e])
    simp only [merge, List.foldl_cons] at hstep ⊢
    rw [hstep]
    by_cases he : e.1 = k
    · simp [he]
    · have hkeep : (into.filter (·.1 ≠ e.1)).any (·.1 = k) = into.any (·.1 = k) := by
        rw [List.any_filter]
        apply List.any_congr rfl
        intro x
        by_cases hx : x.1 = k
        · simp [hx, Ne.symm he]
        · simp [hx]
      rw [List.any_append, hkeep]
      simp [he]

end JobBoard

namespace JobStatus

variable (st : JobStatus) (f : Option Failure) (md : List (String × Json))

/-- A completion leaves `error_type` in the metadata exactly when it failed. -/
theorem complete_errorType : (st.complete f md).metadata.any (·.1 = "error_type") = f.isSome := by
  cases f with
  | none =>
    simp [complete, List.any_filter]
  | some f =>
    by_cases hgiven : md.any (·.1 = "error_type") = true <;>
      simp [complete, hgiven, JobBoard.merge_any_key]

@[simp] theorem complete_successCount :
    (st.complete f md).successCount = st.successCount + if f.isNone then 1 else 0 := by
  cases f <;> simp [complete]

@[simp] theorem complete_failureCount :
    (st.complete f md).failureCount = st.failureCount + if f.isSome then 1 else 0 := by
  cases f <;> simp [complete]

@[simp] theorem complete_consecutiveFailures :
    (st.complete f md).consecutiveFailures = if f.isSome then st.consecutiveFailures + 1 else 0 := by
  cases f <;> simp [complete]

@[simp] theorem complete_lastError : (st.complete f md).lastError = (f.map Failure.text).getD "" := by
  cases f <;> simp [complete]

@[simp] theorem complete_state : (st.complete f md).state = (RunEvent.ended f).state := by
  rcases f with _ | _ <;> simp [complete, RunEvent.state]

@[simp] theorem complete_lastRun : (st.complete f md).lastRun = st.lastRun := by
  cases f <;> simp [complete]


/-- A status follows a job's history of starts and completions. -/
structure Follows (st : JobStatus) (rs : List RunEvent) : Prop where
  successes : st.successCount = (RunEvent.outcomes rs).countP Option.isNone
  failures : st.failureCount = (RunEvent.outcomes rs).countP Option.isSome
  inRow : st.consecutiveFailures = RunEvent.failuresInRow rs
  lastError : st.lastError = ((RunEvent.lastFailure rs).map Failure.text).getD ""
  errorType : st.metadata.any (·.1 = "error_type") = (RunEvent.lastFailure rs).isSome
  state : st.state = RunEvent.stateAfter rs
  lastRun : st.lastRun = (RunEvent.lastStart rs).getD 0

namespace Follows

variable {st : JobStatus} {rs : List RunEvent}

/-- A new status follows an empty history. -/
theorem nil : ({} : JobStatus).Follows [] :=
  ⟨rfl, rfl, rfl, rfl, rfl, rfl, rfl⟩

/-- A start keeps the counts and the last failure, and leaves the job running from its time. -/
theorem start (h : st.Follows rs) (t : Int) :
    ({ st with state := .running, lastRun := t } : JobStatus).Follows (rs ++ [.started t]) where
  successes := by simp [h.successes]
  failures := by simp [h.failures]
  inRow := by simp [h.inRow]
  lastError := by simp [h.lastError]
  errorType := by simp [h.errorType]
  state := by simp [RunEvent.state]
  lastRun := by simp

/-- Saying when a job fires next changes nothing its history shows. -/
theorem setNextRun (h : st.Follows rs) (t : Int) : ({ st with nextRun := some t } : JobStatus).Follows rs :=
  ⟨h.successes, h.failures, h.inRow, h.lastError, h.errorType, h.state, h.lastRun⟩

/-- A completion counts its outcome and leaves the job in it. -/
theorem complete (h : st.Follows rs) (f : Option Failure) (md : List (String × Json)) :
    (st.complete f md).Follows (rs ++ [.ended f]) where
  successes := by cases f <;> simp [h.successes]
  failures := by cases f <;> simp [h.failures]
  inRow := by cases f <;> simp [h.inRow]
  lastError := by simp
  errorType := by simp [complete_errorType]
  state := by simp
  lastRun := by simp [h.lastRun]

end Follows

end JobStatus

/-- A call made on the job board. -/
inductive BoardCall where
  | register (job : String)
  | start (job : String) (time : Int)
  | setNextRun (job : String) (time : Int)
  | complete (job : String) (failure : Option Failure) (metadata : List (String × Json))

namespace BoardCall

/-- The job a call is about. -/
def job : BoardCall → String
  | .register j | .start j _ | .setNextRun j _ | .complete j _ _ => j

/-- Does the call put `j` on the board? Registering and starting do. -/
def joins (j : String) : BoardCall → Bool
  | .register j' | .start j' _ => j' = j
  | _ => false

/-- The start or completion of `j` that the call makes, if any. -/
def runEvent (j : String) : BoardCall → Option RunEvent
  | .start j' t => if j' = j then some (.started t) else none
  | .complete j' f _ => if j' = j then some (.ended f) else none
  | _ => none

/-- Has a call put `j` on the board? -/
def joined (j : String) (calls : List BoardCall) : Bool := calls.any (joins j)

/-- The history of `j`: its starts and completions from the call that put it on the board on. -/
def runs (j : String) (calls : List BoardCall) : List RunEvent :=
  (calls.dropWhile (fun c => !c.joins j)).filterMap (runEvent j)

variable {j : String} {c : BoardCall} (calls : List BoardCall)

theorem joins_of_ne (h : c.job ≠ j) : c.joins j = false := by
  cases c <;> simp_all [job, joins]

theorem runEvent_of_ne (h : c.job ≠ j) : c.runEvent j = none := by
  cases c <;> simp_all [job, runEvent]

@[simp] theorem joined_append : joined j (calls ++ [c]) = (joined j calls || c.joins j) := by
  simp [joined]

theorem runs_of_not_joined (h : joined j calls = false) : runs j calls = [] := by
  have hall : calls.dropWhile (fun c => !c.joins j) = [] := by
    rw [List.dropWhile_eq_nil_iff]
    intro c hc
    simp only [joined, List.any_eq_false] at h
    simpa using h c hc
  simp [runs, hall]

/-- Once `j` is on the board, a call adds its start or completion of `j` to the history. -/
theorem runs_append (h : joined j (calls ++ [c]) = true) :
    runs j (calls ++ [c]) = runs j calls ++ (c.runEvent j).toList := by
  by_cases hbefore : joined j calls = true
  · have hne : (calls.dropWhile (fun c => !c.joins j)).isEmpty = false := by
      rw [List.isEmpty_eq_false_iff, ne_eq, List.dropWhile_eq_nil_iff]
      simp only [joined, List.any_eq_true] at hbefore
      obtain ⟨c', hc', hj⟩ := hbefore
      intro hall
      simpa [hj] using hall c' hc'
    simp only [runs, List.dropWhile_append, hne, Bool.false_eq_true, if_false, List.filterMap_append]
    rcases he : c.runEvent j with _ | e <;> simp [he]
  · have hnot : joined j calls = false := by simpa using hbefore
    have hjoins : c.joins j = true := by simpa [hnot] using h
    have hempty : calls.dropWhile (fun c => !c.joins j) = [] := by
      rw [List.dropWhile_eq_nil_iff]
      intro c' hc'
      simp only [joined, List.any_eq_false] at hnot
      simpa using hnot c' hc'
    simp only [runs, List.dropWhile_append, hempty, List.isEmpty_nil, if_true,
      List.dropWhile_cons, hjoins, Bool.not_true, Bool.false_eq_true, if_false, List.filterMap_nil,
      List.nil_append]
    rcases he : c.runEvent j with _ | e <;> simp [he]

/-- A call about another job leaves the history of `j` as it is. -/
theorem runs_append_of_ne (h : c.job ≠ j) : runs j (calls ++ [c]) = runs j calls := by
  by_cases hj : joined j calls = true
  · rw [runs_append calls (by simp [hj]), runEvent_of_ne h]
    simp
  · have hnot : joined j calls = false := by simpa using hj
    rw [runs_of_not_joined calls hnot, runs_of_not_joined _ (by simp [hnot, joins_of_ne h])]

end BoardCall

namespace JobBoard

/-- Makes one call on the board. -/
def apply (b : JobBoard) : BoardCall → JobBoard
  | .register j => b.register j
  | .start j t => b.start j t
  | .setNextRun j t => b.setNextRun j t
  | .complete j f md => b.complete j f md

/-- The board after `calls`, made on an empty one. -/
def replay (calls : List BoardCall) : JobBoard := calls.foldl apply {}

@[simp] theorem replay_append (calls : List BoardCall) (c : BoardCall) :
    replay (calls ++ [c]) = (replay calls).apply c := by
  simp [replay]

section Statuses

variable (b : JobBoard) (job j : String)

@[simp] theorem status?_withMetrics (m : JobMetrics) : ({ b with metrics := m } : JobBoard).status? j = b.status? j :=
  rfl

theorem status?_put (st : JobStatus) :
    (b.put job st).status? j = if j = job then (b.status? j).map fun _ => st else b.status? j := by
  obtain ⟨jobs, m⟩ := b
  simp only [status?, put]
  induction jobs with
  | nil => simp
  | cons e es ih =>
    by_cases he : e.1 = job <;> by_cases hj : j = job <;> by_cases hej : e.1 = j <;> simp_all

/-- A job added at the end is found only where no other entry has its name. -/
theorem status?_append (st : JobStatus) (m : JobMetrics) :
    ({ jobs := b.jobs ++ [(job, st)], metrics := m } : JobBoard).status? j =
      (b.status? j).or (if job = j then some st else none) := by
  simp only [status?, List.find?_append]
  by_cases h : job = j
  · subst h
    cases hf : b.jobs.find? (·.1 = job) <;> simp
  · simp [h]

theorem status?_register :
    (b.register job).status? j = if j = job then some ((b.status? j).getD {}) else b.status? j := by
  unfold register
  rcases hs : b.status? job with _ | st
  · simp only [Option.isSome_none, Bool.false_eq_true, if_false, status?_append]
    by_cases hj : j = job
    · subst hj
      simp [hs]
    · simp [hj, Ne.symm hj]
  · by_cases hj : j = job
    · subst hj
      simp [hs]
    · simp [hj]

theorem status?_start (t : Int) :
    (b.start job t).status? j =
      if j = job then some { (b.status? j).getD {} with state := .running, lastRun := t } else b.status? j := by
  unfold start
  rcases hs : b.status? job with _ | st
  · simp only [status?_append]
    by_cases hj : j = job
    · subst hj
      simp [hs]
    · simp [hj, Ne.symm hj]
  · simp only [status?_withMetrics, status?_put]
    by_cases hj : j = job
    · subst hj
      simp [hs]
    · simp [hj]

theorem status?_setNextRun (t : Int) :
    (b.setNextRun job t).status? j =
      if j = job then (b.status? j).map fun st => { st with nextRun := some t } else b.status? j := by
  unfold setNextRun
  rcases hs : b.status? job with _ | st
  · by_cases hj : j = job
    · subst hj
      simp [hs]
    · simp [hj]
  · simp only [status?_put]
    by_cases hj : j = job
    · subst hj
      simp [hs]
    · simp [hj]

theorem status?_complete (f : Option Failure) (md : List (String × Json)) :
    (b.complete job f md).status? j =
      if j = job then (b.status? j).map (·.complete f md) else b.status? j := by
  unfold complete
  rcases hs : b.status? job with _ | st
  · by_cases hj : j = job
    · subst hj
      simp [hs]
    · simp [hj]
  · simp only [status?_withMetrics, status?_put]
    by_cases hj : j = job
    · subst hj
      simp [hs]
    · simp [hj]

/-- A call about another job leaves the status of `j` as it is. -/
theorem status?_apply_of_ne {c : BoardCall} (h : c.job ≠ j) : (b.apply c).status? j = b.status? j := by
  have hj : j ≠ c.job := Ne.symm h
  cases c <;>
    simp_all [apply, BoardCall.job, status?_register, status?_start, status?_setNextRun, status?_complete]

end Statuses

section Names

variable {b : JobBoard} {job : String}

@[simp] theorem map_fst_put (b : JobBoard) (job : String) (st : JobStatus) :
    (b.put job st).jobs.map Prod.fst = b.jobs.map Prod.fst := by
  simp only [put, List.map_map]
  apply List.map_congr_left
  intro e _
  by_cases he : e.1 = job <;> simp [he]

/-- A job that is not on the board may be added without repeating a name. -/
theorem nodup_append_new (hu : (b.jobs.map Prod.fst).Nodup) (hs : b.status? job = none) (st : JobStatus) :
    ((b.jobs ++ [(job, st)]).map Prod.fst).Nodup := by
  have hout : ∀ e ∈ b.jobs, e.1 ≠ job := by
    have hnone : b.jobs.find? (·.1 = job) = none := by
      simpa [status?] using hs
    intro e he
    simpa using List.find?_eq_none.1 hnone e he
  rw [List.map_append, List.nodup_append]
  refine ⟨hu, by simp, ?_⟩
  intro a ha x hx
  obtain ⟨e, he, rfl⟩ := List.mem_map.1 ha
  simp only [List.map_cons, List.map_nil, List.mem_singleton] at hx
  rw [hx]
  exact hout e he

/-- No call repeats a name on the board. -/
theorem nodup_apply (hu : (b.jobs.map Prod.fst).Nodup) (c : BoardCall) :
    ((b.apply c).jobs.map Prod.fst).Nodup := by
  cases c with
  | register j =>
    rcases hs : b.status? j with _ | st
    · simpa [apply, register, hs] using nodup_append_new hu hs {}
    · simpa [apply, register, hs] using hu
  | start j t =>
    rcases hs : b.status? j with _ | st
    · simpa [apply, start, hs] using nodup_append_new hu hs { state := .running, lastRun := t }
    · simpa [apply, start, hs] using hu
  | setNextRun j t =>
    rcases hs : b.status? j with _ | st <;> simpa [apply, setNextRun, hs] using hu
  | complete j f md =>
    rcases hs : b.status? j with _ | st <;> simpa [apply, complete, hs] using hu

/-- With no name repeated, the board's entries are the statuses of their jobs. -/
theorem mem_jobs_iff (hu : (b.jobs.map Prod.fst).Nodup) {j : String} {st : JobStatus} :
    (j, st) ∈ b.jobs ↔ b.status? j = some st := by
  constructor
  · intro hmem
    obtain ⟨e, hfind⟩ := Option.isSome_iff_exists.1
      (List.find?_isSome.2 ⟨(j, st), hmem, by simp⟩ : (b.jobs.find? (·.1 = j)).isSome)
    have hname : e.1 = j := by simpa using List.find?_some hfind
    have he : e = (j, st) := List.inj_on_of_nodup_map hu (List.mem_of_find?_eq_some hfind) hmem hname
    simp [status?, hfind, he]
  · intro hs
    obtain ⟨e, hfind, rfl⟩ := Option.map_eq_some_iff.1 hs
    have hname : e.1 = j := by simpa using List.find?_some hfind
    rw [← hname]
    exact List.mem_of_find?_eq_some hfind

end Names

/-- What the board keeps of the calls made on it: one entry per name, a status for exactly the
jobs the calls put on it, and each status following its job's history. -/
structure Tracks (b : JobBoard) (calls : List BoardCall) : Prop where
  unique : (b.jobs.map Prod.fst).Nodup
  onBoard : ∀ j, (b.status? j).isSome = BoardCall.joined j calls
  follows : ∀ j st, b.status? j = some st → st.Follows (BoardCall.runs j calls)

namespace Tracks

variable {b : JobBoard} {calls : List BoardCall}

theorem empty : Tracks {} [] where
  unique := List.nodup_nil
  onBoard _ := rfl
  follows _ _ h := by cases h

/-- The job a call is about is on the board after it exactly when some call put it there, and
its status follows its history. -/
theorem apply_self (h : Tracks b calls) (c : BoardCall) :
    ((b.apply c).status? c.job).isSome = BoardCall.joined c.job (calls ++ [c]) ∧
      ∀ st, (b.apply c).status? c.job = some st → st.Follows (BoardCall.runs c.job (calls ++ [c])) := by
  have hon := h.onBoard c.job
  rcases hs : b.status? c.job with _ | st0
  · have hnot : BoardCall.joined c.job calls = false := by rw [← hon, hs]; rfl
    have hruns : BoardCall.runs c.job calls = [] := BoardCall.runs_of_not_joined calls hnot
    cases c with
    | register j =>
      simp only [BoardCall.job] at hs hnot hruns ⊢
      refine ⟨by simp [apply, status?_register, BoardCall.joins], ?_⟩
      intro st hst
      simp only [apply, status?_register, hs, if_true, Option.getD_none, Option.some.injEq] at hst
      rw [← hst, BoardCall.runs_append _ (by simp [BoardCall.joins]), hruns]
      exact JobStatus.Follows.nil
    | start j t =>
      simp only [BoardCall.job] at hs hnot hruns ⊢
      refine ⟨by simp [apply, status?_start, BoardCall.joins], ?_⟩
      intro st hst
      simp only [apply, status?_start, hs, if_true, Option.getD_none, Option.some.injEq] at hst
      rw [← hst, BoardCall.runs_append _ (by simp [BoardCall.joins]), hruns]
      simpa [BoardCall.runEvent] using JobStatus.Follows.nil.start t
    | setNextRun j t =>
      simp only [BoardCall.job] at hs hnot ⊢
      simp [apply, status?_setNextRun, hs, hnot, BoardCall.joins]
    | complete j f md =>
      simp only [BoardCall.job] at hs hnot ⊢
      simp [apply, status?_complete, hs, hnot, BoardCall.joins]
  · have hjoined : BoardCall.joined c.job calls = true := by rw [← hon, hs]; rfl
    have hf := h.follows c.job st0 hs
    have hruns := BoardCall.runs_append (c := c) calls (by rw [BoardCall.joined_append, hjoined, Bool.true_or])
    cases c with
    | register j =>
      simp only [BoardCall.job] at hs hjoined hf hruns ⊢
      refine ⟨by simp [apply, status?_register, hs, hjoined], ?_⟩
      intro st hst
      simp only [apply, status?_register, hs, if_true, Option.getD_some, Option.some.injEq] at hst
      simpa [hruns, ← hst, BoardCall.runEvent] using hf
    | start j t =>
      simp only [BoardCall.job] at hs hjoined hf hruns ⊢
      refine ⟨by simp [apply, status?_start, BoardCall.joins], ?_⟩
      intro st hst
      simp only [apply, status?_start, hs, if_true, Option.getD_some, Option.some.injEq] at hst
      simpa [hruns, ← hst, BoardCall.runEvent] using hf.start t
    | setNextRun j t =>
      simp only [BoardCall.job] at hs hjoined hf hruns ⊢
      refine ⟨by simp [apply, status?_setNextRun, hs, hjoined], ?_⟩
      intro st hst
      simp only [apply, status?_setNextRun, hs, if_true, Option.map_some, Option.some.injEq] at hst
      simpa [hruns, ← hst, BoardCall.runEvent] using hf.setNextRun t
    | complete j f md =>
      simp only [BoardCall.job] at hs hjoined hf hruns ⊢
      refine ⟨by simp [apply, status?_complete, hs, hjoined], ?_⟩
      intro st hst
      simp only [apply, status?_complete, hs, if_true, Option.map_some, Option.some.injEq] at hst
      simpa [hruns, ← hst, BoardCall.runEvent] using hf.complete f md

/-- Every call keeps the board tracking the calls made on it. -/
theorem apply (h : Tracks b calls) (c : BoardCall) : Tracks (b.apply c) (calls ++ [c]) where
  unique := nodup_apply h.unique c
  onBoard j := by
    by_cases hj : c.job = j
    · subst hj
      exact (h.apply_self c).1
    · rw [status?_apply_of_ne b j hj, BoardCall.joined_append, BoardCall.joins_of_ne hj, Bool.or_false]
      exact h.onBoard j
  follows j st hst := by
    by_cases hj : c.job = j
    · subst hj
      exact (h.apply_self c).2 st hst
    · rw [status?_apply_of_ne b j hj] at hst
      rw [BoardCall.runs_append_of_ne calls hj]
      exact h.follows j st hst

end Tracks

/-- A board made by any calls tracks them. -/
theorem tracks_replay (calls : List BoardCall) : Tracks (replay calls) calls := by
  induction calls using List.reverseRecOn with
  | nil => exact Tracks.empty
  | append_singleton calls c ih =>
    rw [replay_append]
    exact ih.apply c

/-- Completing a job no call put on the board changes nothing, metrics included. -/
theorem replay_complete_of_not_joined {calls : List BoardCall} {j : String} (f : Option Failure)
    (md : List (String × Json)) (h : BoardCall.joined j calls = false) :
    replay (calls ++ [.complete j f md]) = replay calls := by
  have hs : (replay calls).status? j = none := by
    simpa [h] using (tracks_replay calls).onBoard j
  simp [apply, complete, hs]

end JobBoard

namespace JobStatus

variable (st : JobStatus) (now : Int)

theorem readAt_state : (st.readAt now).state =
    if st.state = .running ∧ now - st.lastRun > JobBoard.stallAfter then .stalled else st.state := by
  unfold readAt
  split_ifs <;> rfl

@[simp] theorem readAt_consecutiveFailures : (st.readAt now).consecutiveFailures = st.consecutiveFailures := by
  unfold readAt
  split_ifs <;> rfl

namespace Follows

variable {st : JobStatus} {rs : List RunEvent}

/-- A status reads as stalled exactly when its job has been running since longer ago than the
stall threshold. -/
theorem readAt_stalled_iff (h : st.Follows rs) (now : Int) :
    (st.readAt now).state = .stalled ↔
      ∃ t, rs.getLast? = some (.started t) ∧ now - t > JobBoard.stallAfter := by
  rw [readAt_state]
  constructor
  · intro hstalled
    split_ifs at hstalled with hlate
    · obtain ⟨hrunning, hover⟩ := hlate
      obtain ⟨t, ht⟩ := (RunEvent.stateAfter_eq_running_iff rs).1 (h.state ▸ hrunning)
      rw [h.lastRun, RunEvent.lastStart_of_getLast? ht, Option.getD_some] at hover
      exact ⟨t, ht, hover⟩
    · exact absurd (h.state ▸ hstalled) (RunEvent.stateAfter_ne_stalled rs)
  · rintro ⟨t, ht, hover⟩
    have hrunning : st.state = .running := h.state ▸ (RunEvent.stateAfter_eq_running_iff rs).2 ⟨t, ht⟩
    have hlast : st.lastRun = t := by rw [h.lastRun, RunEvent.lastStart_of_getLast? ht, Option.getD_some]
    rw [if_pos ⟨hrunning, hlast ▸ hover⟩]

/-- Reading at a time leaves a failed status failed, and makes no other one failed. -/
theorem readAt_failed_iff (h : st.Follows rs) (now : Int) :
    (st.readAt now).state = .failed ↔ RunEvent.stateAfter rs = .failed := by
  rw [readAt_state, ← h.state]
  split_ifs with hlate
  · simp [hlate.1]
  · rfl

end Follows

end JobStatus

namespace JobBoard

/-- The board read at a time lists the statuses of its jobs, read at that time. -/
theorem exists_mem_readAt_iff {b : JobBoard} (hu : (b.jobs.map Prod.fst).Nodup) (now : Int)
    (P : String → JobStatus → Prop) :
    (∃ e ∈ b.readAt now, P e.1 e.2) ↔ ∃ j st, b.status? j = some st ∧ P j (st.readAt now) := by
  simp only [readAt, List.mem_map]
  constructor
  · rintro ⟨_, ⟨⟨j, st⟩, hmem, rfl⟩, hp⟩
    exact ⟨j, st, (mem_jobs_iff hu).1 hmem, hp⟩
  · rintro ⟨j, st, hs, hp⟩
    exact ⟨_, ⟨(j, st), (mem_jobs_iff hu).2 hs, rfl⟩, hp⟩

end JobBoard

namespace Health

/-- The jobs verdict is unhealthy exactly when some job reads as stalled, or some live-tail job
reads as failed, having failed more than twice in a row. -/
theorem jobsVerdict_eq_unhealthy_iff (b : JobBoard) (now : Int) :
    jobsVerdict b now = .unhealthy ↔
      ∃ e ∈ b.readAt now, e.2.state = .stalled ∨
        (e.1.endsWith criticalSuffix = true ∧ e.2.state = .failed ∧ e.2.consecutiveFailures > 2) := by
  have hstalled : (JobBoard.summary b now).stalled > 0 ↔ ∃ e ∈ b.readAt now, e.2.state = .stalled := by
    simp [JobBoard.summary, List.length_filter_pos_iff]
  have hfailed : (JobBoard.summary b now).unhealthy > 0 ↔ ∃ e ∈ b.readAt now, e.2.state = .failed := by
    simp [JobBoard.summary, List.length_filter_pos_iff]
  have hcritical : ((b.readAt now).any fun e =>
      decide (e.1.endsWith criticalSuffix = true ∧ e.2.state = .failed ∧ e.2.consecutiveFailures > 2)) = true ↔
      ∃ e ∈ b.readAt now, e.1.endsWith criticalSuffix = true ∧ e.2.state = .failed ∧ e.2.consecutiveFailures > 2 := by
    simp
  unfold jobsVerdict
  simp only
  split_ifs with hs hu hcrit
  · obtain ⟨e, he, hst⟩ := hstalled.1 hs
    exact iff_of_true rfl ⟨e, he, Or.inl hst⟩
  · obtain ⟨e, he, hc⟩ := hcritical.1 hcrit
    exact iff_of_true rfl ⟨e, he, Or.inr hc⟩
  · refine iff_of_false (by decide) ?_
    rintro ⟨e, he, hst | hc⟩
    · exact hs (hstalled.2 ⟨e, he, hst⟩)
    · exact hcrit (hcritical.2 ⟨e, he, hc⟩)
  · refine iff_of_false (by decide) ?_
    rintro ⟨e, he, hst | hc⟩
    · exact hs (hstalled.2 ⟨e, he, hst⟩)
    · exact hu (hfailed.2 ⟨e, he, hc.2.1⟩)

/-- The jobs endpoint over a board answers 503 exactly on an unhealthy verdict. -/
theorem jobs_status_eq_503_iff (b : JobBoard) (pending : Option (List (String × Nat))) (now : Int) :
    (jobs (some b) pending now).status = 503 ↔ jobsVerdict b now = .unhealthy := by
  show (jobsVerdict b now).code = 503 ↔ _
  cases jobsVerdict b now <;> decide

end Health

namespace JobBoard

/-- On a board that tracks its calls, some job reads as stalled or as a failing live-tail job
exactly when its history says so: it has been running since longer ago than the stall
threshold, or its last completion failed after more than two failures in a row. -/
theorem Tracks.alarm_iff {b : JobBoard} {calls : List BoardCall} (h : Tracks b calls) (now : Int) :
    (∃ e ∈ b.readAt now, e.2.state = .stalled ∨
        (e.1.endsWith Health.criticalSuffix = true ∧ e.2.state = .failed ∧ e.2.consecutiveFailures > 2)) ↔
      ∃ j, (∃ t, (BoardCall.runs j calls).getLast? = some (.started t) ∧ now - t > stallAfter) ∨
        (j.endsWith Health.criticalSuffix = true ∧ RunEvent.stateAfter (BoardCall.runs j calls) = .failed ∧
          RunEvent.failuresInRow (BoardCall.runs j calls) > 2) := by
  refine (exists_mem_readAt_iff h.unique now (fun j st => st.state = .stalled ∨
    (j.endsWith Health.criticalSuffix = true ∧ st.state = .failed ∧ st.consecutiveFailures > 2))).trans ?_
  constructor
  · rintro ⟨j, st, hs, hst | ⟨hsuffix, hfail, hrow⟩⟩
    · exact ⟨j, Or.inl (((h.follows j st hs).readAt_stalled_iff now).1 hst)⟩
    · have hf := h.follows j st hs
      rw [JobStatus.readAt_consecutiveFailures, hf.inRow] at hrow
      exact ⟨j, Or.inr ⟨hsuffix, (hf.readAt_failed_iff now).1 hfail, hrow⟩⟩
  · rintro ⟨j, hj⟩
    have hnonempty : BoardCall.runs j calls ≠ [] := by
      rcases hj with ⟨t, ht, -⟩ | ⟨-, hfail, -⟩
      · intro hnil
        rw [hnil] at ht
        cases ht
      · exact RunEvent.ne_nil_of_stateAfter_eq_failed hfail
    have hjoined : BoardCall.joined j calls = true := by
      by_contra hnot
      exact hnonempty (BoardCall.runs_of_not_joined calls (by simpa using hnot))
    obtain ⟨st, hs⟩ := Option.isSome_iff_exists.1 ((h.onBoard j).trans hjoined)
    have hf := h.follows j st hs
    refine ⟨j, st, hs, ?_⟩
    rcases hj with hstall | ⟨hsuffix, hfail, hrow⟩
    · exact Or.inl ((hf.readAt_stalled_iff now).2 hstall)
    · rw [← hf.inRow] at hrow
      exact Or.inr ⟨hsuffix, (hf.readAt_failed_iff now).2 hfail, by simpa using hrow⟩

end JobBoard

/-- After any calls on the job board, a job is on it exactly when a call registered or started
it, and its status follows its history from then on; completing a job that no call put on the
board changes nothing; and the jobs endpoint answers 503 exactly when some job has been running
since longer ago than the stall threshold, or some live-tail job's last completion failed after
more than two failures in a row. -/
theorem job_board_follows_history (calls : List BoardCall) (pending : Option (List (String × Nat)))
    (now : Int) :
    (∀ j, ((JobBoard.replay calls).status? j).isSome = BoardCall.joined j calls) ∧
    (∀ j st, (JobBoard.replay calls).status? j = some st → st.Follows (BoardCall.runs j calls)) ∧
    (∀ j f md, BoardCall.joined j calls = false →
      JobBoard.replay (calls ++ [.complete j f md]) = JobBoard.replay calls) ∧
    ((Health.jobs (some (JobBoard.replay calls)) pending now).status = 503 ↔
      ∃ j, (∃ t, (BoardCall.runs j calls).getLast? = some (.started t) ∧ now - t > JobBoard.stallAfter) ∨
        (j.endsWith Health.criticalSuffix = true ∧ RunEvent.stateAfter (BoardCall.runs j calls) = .failed ∧
          RunEvent.failuresInRow (BoardCall.runs j calls) > 2)) := by
  have h := JobBoard.tracks_replay calls
  refine ⟨h.onBoard, h.follows, fun j f md hj => JobBoard.replay_complete_of_not_joined f md hj, ?_⟩
  rw [Health.jobs_status_eq_503_iff, Health.jobsVerdict_eq_unhealthy_iff]
  exact h.alarm_iff now

/-- A registered job completed without ever being started reads as succeeded: it is pending
only until its first start or completion. -/
theorem completed_unstarted_job_succeeds :
    ((JobBoard.replay [.register "native_live_tail", .complete "native_live_tail" none []]).status?
      "native_live_tail").map JobStatus.state = some .success := by
  decide +kernel

end SwapArchive
