import Mathlib
import SwapArchive.Ingest.Metrics
import SwapArchive.Proofs.Pass.Lands
import SwapArchive.Proofs.Store.Loading

/-!
# Metrics beside a pass

`Services.metered` runs a world's services with the `IngestMetrics` kept beside the world, folding
every report in, so that a pass run under `Services.observed` is seen through its calls, its
pending sets and its metrics at once. `IngestMetrics.tally m key` are the counters of one pass on
one source (a report adds `Progress.tally`), and `IngestMetrics.gauge m kind` the pending-set size
last reported for a kind. `Synced kind o` says the gauge shows the size of the kind's pending set.
`PassM.Keeps I x` says a pass leaves `I` holding on every exit when it held at the start; its
rules (`Keeps.bind`, `Keeps.ite`, …) follow a pass's code one combinator at a time, and the steps
the Midgard passes share keep `Synced` while no other caller tracks ids of the kind.
-/

namespace SwapArchive

set_option autoImplicit false

variable {σ α β : Type}

namespace IngestMetrics

/-- A transition of the world, the metrics beside it left as they are. -/
def beside (f : σ → α × σ) (w : σ × IngestMetrics) : α × (σ × IngestMetrics) :=
  ((f w.1).1, ((f w.1).2, w.2))

end IngestMetrics

namespace Services

/-- The services of a world with the ingestion metrics kept beside it: a report goes to the world
and is folded into the metrics, and every other service is the world's alone. -/
def metered (svc : Services σ) : Services (σ × IngestMetrics) where
  fetchPage kind req := IngestMetrics.beside (svc.fetchPage kind req)
  fetchSwaps size offset := IngestMetrics.beside (svc.fetchSwaps size offset)
  fetchPrice coin t := IngestMetrics.beside (svc.fetchPrice coin t)
  latestTimestamp table := IngestMetrics.beside (svc.latestTimestamp table)
  storeRecords table policy rows := IngestMetrics.beside (svc.storeRecords table policy rows)
  storeRecord table policy row := IngestMetrics.beside (svc.storeRecord table policy row)
  storeSwaps table policy rows := IngestMetrics.beside (svc.storeSwaps table policy rows)
  storeSwap table policy row := IngestMetrics.beside (svc.storeSwap table policy row)
  existingSwapIds table ids := IngestMetrics.beside (svc.existingSwapIds table ids)
  upsertClosingPrice p := IngestMetrics.beside (svc.upsertClosingPrice p)
  readCursor kind dir := IngestMetrics.beside (svc.readCursor kind dir)
  writeCursor kind dir cursor := IngestMetrics.beside (svc.writeCursor kind dir cursor)
  trackPending kind ids w := (svc.trackPending kind ids w.1, w.2)
  drainPending kind := IngestMetrics.beside (svc.drainPending kind)
  pendingCount kind := IngestMetrics.beside (svc.pendingCount kind)
  report p w := (svc.report p w.1, w.2.observe p)
  tryLock key := IngestMetrics.beside (svc.tryLock key)
  unlock key w := (svc.unlock key w.1, w.2)
  now w := svc.now w.1
  cancelled w := svc.cancelled w.1

end Services

/-! ## Reading the metrics -/

namespace IngestMetrics

/-- The value of a counter series, zero before its first report. -/
def counter {κ : Type} [DecidableEq κ] (xs : List (κ × Nat)) (k : κ) : Nat :=
  ((xs.find? (·.1 = k)).map (·.2)).getD 0

/-- Bumping a series adds to that series only. -/
theorem counter_bump {κ : Type} [DecidableEq κ] (xs : List (κ × Nat)) (k k' : κ) (n : Nat) :
    counter (bump xs k n) k' = counter xs k' + if k' = k then n else 0 := by
  unfold bump
  split
  · rename_i e hk
    have hfind : (xs.map fun x => if x.1 = k then (x.1, x.2 + n) else x).find? (·.1 = k') =
        (xs.find? (·.1 = k')).map fun x => if x.1 = k then (x.1, x.2 + n) else x := by
      have hkeep : ((fun x : κ × Nat => decide (x.1 = k')) ∘ fun x => if x.1 = k then (x.1, x.2 + n) else x) =
          fun x => decide (x.1 = k') := by
        funext x
        by_cases hx : x.1 = k <;> simp [hx]
      rw [List.find?_map, hkeep]
    rw [counter, hfind]
    by_cases hk' : k' = k
    · subst hk'
      have he := List.find?_some hk
      simp only [decide_eq_true_eq] at he
      simp [counter, hk, he]
    · rcases hk'' : xs.find? (·.1 = k') with _ | e'
      · simp [counter, hk'', hk']
      · have he' := List.find?_some hk''
        simp only [decide_eq_true_eq] at he'
        simp [counter, hk'', he', hk']
  · rename_i hk
    by_cases hk' : k' = k
    · subst hk'
      simp [counter, List.find?_append, hk]
    · simp [counter, List.find?_append, hk', Ne.symm hk']

/-- The pending-set size last reported for a kind, once one was. -/
def gauge (m : IngestMetrics) (kind : String) : Option Nat := (m.pending.find? (·.1 = kind)).map (·.2)

/-- Setting a series sets that series only. -/
theorem find?_setAt {κ : Type} [DecidableEq κ] (xs : List (κ × Nat)) (k k' : κ) (v : Nat) :
    ((setAt xs k v).find? (·.1 = k')).map (·.2) = if k' = k then some v else (xs.find? (·.1 = k')).map (·.2) := by
  unfold setAt
  split
  · rename_i e hk
    have hfind : (xs.map fun x => if x.1 = k then (x.1, v) else x).find? (·.1 = k') =
        (xs.find? (·.1 = k')).map fun x => if x.1 = k then (x.1, v) else x := by
      have hkeep : ((fun x : κ × Nat => decide (x.1 = k')) ∘ fun x => if x.1 = k then (x.1, v) else x) =
          fun x => decide (x.1 = k') := by
        funext x
        by_cases hx : x.1 = k <;> simp [hx]
      rw [List.find?_map, hkeep]
    rw [hfind, Option.map_map]
    by_cases hk' : k' = k
    · subst hk'
      have he := List.find?_some hk
      simp only [decide_eq_true_eq] at he
      simp [hk, he]
    · rcases hk'' : xs.find? (·.1 = k') with _ | e'
      · simp [hk'', hk']
      · have he' := List.find?_some hk''
        simp only [decide_eq_true_eq] at he'
        simp [hk'', he', hk']
  · rename_i hk
    by_cases hk' : k' = k
    · subst hk'
      simp [List.find?_append, hk]
    · simp [List.find?_append, hk', Ne.symm hk']

/-- The counters of one pass on one source: pages taken in, records stored or refused, and events
dropped. -/
def tally (m : IngestMetrics) (key : String × PassName) : Nat × Nat × Nat :=
  (counter m.pages key, counter m.loaded key + counter m.failed key, counter m.skipped key)

end IngestMetrics

namespace Progress

/-- What a report adds to the counters of one pass on one source. -/
def tally (key : String × PassName) : Progress → Nat × Nat × Nat
  | .pageFetched s p => if key = (s, p) then (1, 0, 0) else 0
  | .recordsLoaded s p n f => if key = (s, p) then (0, n + f, 0) else 0
  | .recordsSkipped s p n => if key = (s, p) then (0, 0, n) else 0
  | .pendingSize _ _ => 0
  | .cursorSaved _ _ _ => 0

/-- The pending-set size a report gives a kind, if it gives one. -/
def sizeFor? (kind : String) : Progress → Option Nat
  | .pendingSize s n => if s = kind then some n else none
  | _ => none

end Progress

namespace IngestMetrics

/-- A report adds its tally to the counters. -/
theorem tally_observe (m : IngestMetrics) (p : Progress) (key : String × PassName) :
    (m.observe p).tally key = m.tally key + p.tally key := by
  cases p with
  | pageFetched s p =>
    by_cases h : key = (s, p) <;> simp [observe, tally, Progress.tally, counter_bump, h]
  | recordsLoaded s p n f =>
    by_cases h : key = (s, p) <;> by_cases hf : f > 0 <;>
      simp [observe, tally, Progress.tally, counter_bump, h, hf] <;> omega
  | recordsSkipped s p n =>
    by_cases h : key = (s, p)
    · by_cases hn : n > 0
      · simp [observe, tally, Progress.tally, counter_bump, h, hn]
      · have hn0 : n = 0 := by omega
        simp [observe, tally, Progress.tally, h, hn0]
    · by_cases hn : n > 0 <;> simp [observe, tally, Progress.tally, counter_bump, h, hn]
  | pendingSize s n => simp [observe, tally, Progress.tally]
  | cursorSaved s d t => simp [observe, tally, Progress.tally]

/-- A report of a kind's pending-set size is the gauge's new value; any other report leaves it. -/
theorem gauge_observe (m : IngestMetrics) (p : Progress) (kind : String) :
    (m.observe p).gauge kind = (p.sizeFor? kind).or (m.gauge kind) := by
  cases p with
  | pendingSize s n =>
    by_cases h : kind = s
    · subst h
      simp [observe, gauge, Progress.sizeFor?, find?_setAt]
    · simp [observe, gauge, Progress.sizeFor?, find?_setAt, h, Ne.symm h]
  | recordsLoaded s p n f =>
    by_cases hf : f > 0 <;> simp [observe, gauge, Progress.sizeFor?, hf]
  | recordsSkipped s p n =>
    by_cases hn : n > 0 <;> simp [observe, gauge, Progress.sizeFor?, hn]
  | pageFetched s p => simp [observe, gauge, Progress.sizeFor?]
  | cursorSaved s d t => simp [observe, gauge, Progress.sizeFor?]

end IngestMetrics

namespace Registry

/-- Trackings of other kinds leave a kind's set as it is. -/
theorem get_trackAll_of_forall_ne {r : Registry} {tracks : List (String × List String)} {kind : String}
    (h : ∀ t ∈ tracks, t.1 ≠ kind) : (r.trackAll tracks).get kind = r.get kind := by
  induction tracks generalizing r with
  | nil => rfl
  | cons t ts ih =>
    simp only [trackAll, List.foldl_cons] at ih ⊢
    rw [ih fun u hu => h u (List.mem_cons_of_mem _ hu)]
    exact get_track_of_ne r (Ne.symm (h t List.mem_cons_self)) t.2

end Registry

/-! ## Running a pass: what every exit keeps -/

namespace PassM

/-- Run from a world where `I` holds, the pass leaves one where it holds, whatever its outcome. -/
def Keeps (I : σ → Prop) (x : PassM σ α) : Prop := ∀ s, I s → I (exec x s).2

namespace Keeps

variable {I : σ → Prop}

theorem pure (a : α) : Keeps I (Pure.pure a : PassM σ α) := fun _ h => h

theorem throw (e : PassError) : Keeps I (MonadExcept.throw e : PassM σ α) := fun _ h => h

theorem bind {x : PassM σ α} {f : α → PassM σ β} (hx : Keeps I x) (hf : ∀ a, Keeps I (f a)) :
    Keeps I (x >>= f) := by
  intro s hs
  rw [exec_bind]
  rcases hr : exec x s with ⟨_ | a, s'⟩
  · simpa [hr] using hx s hs
  · have hs' : I s' := by simpa [hr] using hx s hs
    exact hf a s' hs'

theorem ite (c : Prop) [Decidable c] {x y : PassM σ α} (hx : Keeps I x) (hy : Keeps I y) :
    Keeps I (if c then x else y) := by
  split
  · exact hx
  · exact hy

/-- A step chosen by a test and followed by the same rest, as a do block with a join point
unfolds. -/
theorem ite_bind (c : Prop) [Decidable c] {x y : PassM σ α} {f : α → PassM σ β} (hx : Keeps I x)
    (hy : Keeps I y) (hf : ∀ a, Keeps I (f a)) : Keeps I (if c then x >>= f else y >>= f) :=
  ite c (bind hx hf) (bind hy hf)

theorem modify {f : σ → σ} (h : ∀ s, I s → I (f s)) : Keeps I (modify f : PassM σ Unit) := h

theorem get : Keeps I (get : PassM σ σ) := fun _ h => h

theorem perform {f : σ → α × σ} (h : ∀ s, I s → I (f s).2) : Keeps I (PassM.perform f) := h

theorem attempt {ε : Type} {f : σ → Except ε α × σ} (wrap : ε → PassError) (h : ∀ s, I s → I (f s).2) :
    Keeps I (PassM.attempt f wrap) := by
  intro s hs
  rw [exec_attempt]
  rcases hf : f s with ⟨_ | a, s'⟩ <;> simpa [hf] using h s hs

theorem lift {m : StateM σ α} (h : ∀ s, I s → I (m.run s).2) : Keeps I (ExceptT.lift m : PassM σ α) := h

theorem always {body : PassM σ α} {cleanup : PassM σ Unit} (hb : Keeps I body) (hc : Keeps I cleanup) :
    Keeps I (PassM.always body cleanup) := by
  intro s hs
  rw [exec_always]
  have hafter := hc _ (hb s hs)
  rcases hr : exec cleanup (exec body s).2 with ⟨_ | ⟨⟩, s'⟩ <;> simpa [hr] using hafter

/-- The lock around a pass keeps what asking for it and freeing it keep, and what the body keeps. -/
theorem exclusive {svc : Services σ} {key : String} {body : PassM σ Unit}
    (hlock : ∀ s, I s → I (svc.tryLock key s).2) (hunlock : ∀ s, I s → I (svc.unlock key s))
    (hbody : Keeps I body) : Keeps I (PassM.exclusive svc key body) :=
  bind (perform hlock) fun _ => ite _ (always hbody (modify hunlock)) (pure ())

end Keeps

/-- A transition of the world that cannot fail keeps `I`. -/
def StateKeeps (I : σ → Prop) (m : StateM σ α) : Prop := ∀ s, I s → I (m.run s).2

namespace StateKeeps

variable {I : σ → Prop}

theorem pure (a : α) : StateKeeps I (Pure.pure a : StateM σ α) := fun _ h => h

theorem bind {x : StateM σ α} {f : α → StateM σ β} (hx : StateKeeps I x) (hf : ∀ a, StateKeeps I (f a)) :
    StateKeeps I (x >>= f) := by
  intro s hs
  rw [stateM_run_bind]
  exact hf _ _ (hx s hs)

/-- A transition made only when `c` holds, before the rest, as a do block unfolds it. -/
theorem ite_modify (c : Prop) [Decidable c] {f : σ → σ} {k : StateM σ α} (hf : ∀ s, I s → I (f s))
    (hk : StateKeeps I k) : StateKeeps I (if c then modify f >>= (fun _ => k) else k) := by
  intro s hs
  rw [stateM_run_ite_modify]
  split
  · exact hk _ (hf s hs)
  · exact hk s hs

theorem modify {f : σ → σ} (h : ∀ s, I s → I (f s)) : StateKeeps I (modify f : StateM σ Unit) := h

theorem modifyGet {f : σ → α × σ} (h : ∀ s, I s → I (f s).2) : StateKeeps I (modifyGet f : StateM σ α) := h

/-- A pass run for its outcome keeps what the pass keeps. -/
theorem run {x : PassM σ α} (hx : Keeps I x) : StateKeeps I (ExceptT.run x) := hx

end StateKeeps

end PassM

/-! ## The metered world, observed -/

section Metered

variable (svc : Services σ) (others : σ × IngestMetrics → List (String × List String))

/-- A call of the world alone leaves the metrics as they are. -/
@[simp] theorem ask_beside_metrics (f : σ → β × σ) (log : β → Call) (o : Observed (σ × IngestMetrics)) :
    (Observed.ask others (IngestMetrics.beside f) log o).2.world.2 = o.world.2 := rfl

/-- A property of observed worlds that every call of the world alone keeps. -/
def AskStable (P : Observed (σ × IngestMetrics) → Prop) : Prop :=
  ∀ (β : Type) (f : σ → β × σ) (log : β → Call) (o : Observed (σ × IngestMetrics)),
    P o → P (Observed.ask others (IngestMetrics.beside f) log o).2

/-- Every store of the writer is a call of the world alone, as the stores of the metered
services' writers are. -/
def Writer.Beside (W : Writer (Observed (σ × IngestMetrics)) α) : Prop :=
  (∀ xs, ∃ (f : σ → Except String Unit × σ) (log : Except String Unit → Call),
      W.storeBatch xs = Observed.ask others (IngestMetrics.beside f) log) ∧
    ∀ x, ∃ (f : σ → Except String Unit × σ) (log : Except String Unit → Call),
      W.storeOne x = Observed.ask others (IngestMetrics.beside f) log

theorem recordWriter_beside (src : Source) : (Ingestor.recordWriter (svc.metered.observed others) src).Beside others :=
  ⟨fun _ => ⟨_, _, rfl⟩, fun _ => ⟨_, _, rfl⟩⟩

theorem swapWriter_beside (src : Source) : (Ingestor.swapWriter (svc.metered.observed others) src).Beside others :=
  ⟨fun _ => ⟨_, _, rfl⟩, fun _ => ⟨_, _, rfl⟩⟩

namespace AskStable

variable {others} {P : Observed (σ × IngestMetrics) → Prop} {W : Writer (Observed (σ × IngestMetrics)) α}

/-- Rows stored one by one keep what every call of the world alone keeps. -/
theorem storeEach (hP : AskStable others P) (hW : W.Beside others) (xs : List α)
    {o : Observed (σ × IngestMetrics)} (h : P o) : P (W.storeEach xs o).2 := by
  induction xs generalizing o with
  | nil => exact h
  | cons x xs ih =>
    rw [Writer.storeEach_cons]
    apply ih
    obtain ⟨f, log, hf⟩ := hW.2 x
    rw [hf]
    exact hP _ f log o h

theorem loadEach (hP : AskStable others P) (hW : W.Beside others) (xs : List α)
    {o : Observed (σ × IngestMetrics)} (h : P o) : P ((W.loadEach xs).run o).2 := by
  rw [Writer.loadEach_run]
  exact hP.storeEach hW xs h

theorem loadOne (hP : AskStable others P) (hW : W.Beside others) (x : α)
    {o : Observed (σ × IngestMetrics)} (h : P o) : P ((W.loadOne x).run o).2 := by
  rw [Writer.loadOne_run]
  obtain ⟨f, log, hf⟩ := hW.2 x
  rw [hf]
  exact hP _ f log o h

/-- A batch, stored whole or row by row, keeps what every call of the world alone keeps. -/
theorem loadBatch (hP : AskStable others P) (hW : W.Beside others) (xs : List α)
    {o : Observed (σ × IngestMetrics)} (h : P o) : P ((W.loadBatch xs).run o).2 := by
  by_cases hne : xs = []
  · subst hne
    exact h
  obtain ⟨f, log, hf⟩ := hW.1 xs
  have hbatch : P (W.storeBatch xs o).2 := by
    rw [hf]
    exact hP _ f log o h
  rcases hs : W.storeBatch xs o with ⟨_ | ⟨⟩, s'⟩ <;> rw [hs] at hbatch
  · rw [Writer.loadBatch_run_of_error W hne hs]
    exact hP.loadEach hW xs hbatch
  · rw [Writer.loadBatch_run_of_ok W hne hs]
    exact hbatch

end AskStable

/-- The gauge of `kind` shows the size of its pending set. -/
def Synced (kind : String) (o : Observed (σ × IngestMetrics)) : Prop :=
  o.world.2.gauge kind = some (o.pending.size kind)

variable {others}

theorem Synced.congr {kind : String} {o o' : Observed (σ × IngestMetrics)}
    (hg : o'.world.2.gauge kind = o.world.2.gauge kind) (hp : o'.pending.get kind = o.pending.get kind)
    (h : Synced kind o) : Synced kind o' := by
  unfold Synced Registry.size at *
  rw [hg, hp]
  exact h

/-- While no other caller tracks ids of a kind, a call of the world alone keeps its gauge in step. -/
theorem synced_ask {kind : String} (hothers : ∀ w, ∀ t ∈ others w, t.1 ≠ kind) :
    AskStable others (Synced kind) := by
  intro β f log o h
  exact Synced.congr (o := o) rfl (Registry.get_trackAll_of_forall_ne (hothers _)) h

end Metered

/-! ## The shared steps keep the gauge in step -/

section Steps

open PassM Ingestor

variable (svc : Services σ) {others : σ × IngestMetrics → List (String × List String)} {k : String}

/-- A report that gives `k` no pending-set size leaves the gauge of `k`. -/
theorem keeps_report {p : Progress} (hp : p.sizeFor? k = none) :
    Keeps (Synced k) (report (svc.metered.observed others) p) := by
  intro o h
  refine Synced.congr (o := o) ?_ rfl h
  show (o.world.2.observe p).gauge k = o.world.2.gauge k
  rw [IngestMetrics.gauge_observe, hp, Option.none_or]

/-- Reporting a kind's pending set puts its gauge in step with it, whatever it showed before. -/
theorem synced_reportPending (kind : String) (o : Observed (σ × IngestMetrics)) :
    Synced kind (exec (reportPending (svc.metered.observed others) kind) o).2 := by
  rw [exec_reportPending]
  show (o.world.2.observe (.pendingSize kind (o.pending.size kind))).gauge kind =
    some ((o.pending.touch kind).size kind)
  rw [IngestMetrics.gauge_observe]
  simp [Progress.sizeFor?, Registry.size]

theorem keeps_reportPending (kind : String) :
    Keeps (Synced k) (reportPending (svc.metered.observed others) kind) := by
  intro o h
  by_cases hk : kind = k
  · subst hk
    exact synced_reportPending svc kind o
  · rw [exec_reportPending]
    apply Synced.congr (o := o) _ (by simp) h
    show (o.world.2.observe (.pendingSize kind (o.pending.size kind))).gauge k = o.world.2.gauge k
    rw [IngestMetrics.gauge_observe]
    simp [Progress.sizeFor?, hk]

/-- Tracking ids and reporting the set's size: the kind tracked ends in step, and any other kind
is left as it was. -/
theorem keeps_trackPending (kind : String) (ids : List String) :
    Keeps (Synced k) (trackPending (svc.metered.observed others) kind ids) := by
  intro o h
  have hrun : exec (trackPending (svc.metered.observed others) kind ids) o =
      exec (reportPending (svc.metered.observed others) kind) { o with pending := (o.pending.track kind ids).2 } :=
    rfl
  rw [hrun]
  by_cases hk : kind = k
  · subst hk
    exact synced_reportPending svc kind _
  · apply keeps_reportPending svc kind
    exact Synced.congr (o := o) rfl (Registry.get_track_of_ne _ (Ne.symm hk) ids) h

/-- A call of the world alone, or one that may fail, keeps the gauge in step. -/
theorem keeps_perform_ask (hothers : ∀ w, ∀ t ∈ others w, t.1 ≠ k) (f : σ → β × σ) (log : β → Call) :
    Keeps (Synced k) (perform (Observed.ask others (IngestMetrics.beside f) log)) :=
  Keeps.perform fun o h => synced_ask hothers _ f log o h

theorem keeps_attempt_ask {ε : Type} (hothers : ∀ w, ∀ t ∈ others w, t.1 ≠ k) (f : σ → Except ε β × σ)
    (log : Except ε β → Call) (wrap : ε → PassError) :
    Keeps (Synced k) (attempt (Observed.ask others (IngestMetrics.beside f) log) wrap) :=
  Keeps.attempt wrap fun o h => synced_ask hothers _ f log o h

theorem keeps_fetch (hothers : ∀ w, ∀ t ∈ others w, t.1 ≠ k) (kind : String) (req : PageRequest) :
    Keeps (Synced k) (fetch (svc.metered.observed others) kind req) :=
  keeps_attempt_ask hothers _ _ _

/-- Transforming a page tracks its pending ids and reports the set, so the gauge stays in step. -/
theorem keeps_takePage (src : MidgardSource (Observed (σ × IngestMetrics))) (pass : PassName)
    (actions : List Action) : Keeps (Synced k) (takePage (svc.metered.observed others) src pass actions) := by
  unfold takePage
  split
  · exact Keeps.throw _
  · refine Keeps.bind (keeps_report svc (p := .pageFetched _ _) (by rfl)) fun _ => ?_
    dsimp only
    split
    · exact Keeps.bind (keeps_report svc (p := .recordsSkipped _ _ _) (by rfl)) fun _ =>
        Keeps.bind (keeps_trackPending svc _ _) fun _ => Keeps.pure _
    · exact Keeps.bind (keeps_trackPending svc _ _) fun _ => Keeps.pure _

theorem keeps_loadEach (hothers : ∀ w, ∀ t ∈ others w, t.1 ≠ k) (src : MidgardSource (Observed (σ × IngestMetrics)))
    (hW : src.writer.Beside others) (pass : PassName) (records : List SwapRecord) :
    Keeps (Synced k) (loadEach (svc.metered.observed others) src pass records) := by
  unfold loadEach
  refine Keeps.bind (Keeps.lift fun o h => (synced_ask hothers).loadEach hW records h) fun r => ?_
  obtain ⟨n, errs⟩ := r
  refine Keeps.bind (keeps_report svc (p := .recordsLoaded _ _ _ _) (by rfl)) fun _ => ?_
  split
  · exact Keeps.throw _
  · exact Keeps.pure _

theorem keeps_loadBatch (hothers : ∀ w, ∀ t ∈ others w, t.1 ≠ k) (kind : String)
    {W : Writer (Observed (σ × IngestMetrics)) α} (hW : W.Beside others) (pass : PassName) (xs : List α) :
    Keeps (Synced k) (loadBatch (svc.metered.observed others) kind W pass xs) := by
  unfold loadBatch
  refine Keeps.ite _ (Keeps.pure _) ?_
  refine Keeps.bind (Keeps.lift fun o h => (synced_ask hothers).loadBatch hW xs h) fun r => ?_
  obtain ⟨n, errs⟩ := r
  refine Keeps.bind (keeps_report svc (p := .recordsLoaded _ _ _ _) (by rfl)) fun _ => ?_
  split
  · exact Keeps.throw _
  · exact Keeps.pure _

theorem keeps_saveCursor (hothers : ∀ w, ∀ t ∈ others w, t.1 ≠ k) (kind : String) (dir : Direction)
    (cursor : String) : Keeps (Synced k) (saveCursor (svc.metered.observed others) kind dir cursor) := by
  unfold saveCursor
  refine Keeps.bind (keeps_attempt_ask hothers _ _ _) fun _ => ?_
  exact Keeps.bind Keeps.get fun _ => keeps_report svc (p := .cursorSaved _ _ _) (by rfl)

end Steps

end SwapArchive
