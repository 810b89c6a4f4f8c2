import Mathlib
import SwapArchive.Proofs.Ingest.Metered
import SwapArchive.Proofs.Ingest.PendingRetry

/-!
# The pending gauge follows the pending sets

Every pass that tracks pending ids reports the size of the set it tracked them into, so the gauge
of a kind shows the size of the kind's pending set (`Synced`) after every pass that found it so,
while no other caller tracks ids of that kind. The Midgard walks keep `Synced` step by step
(`keeps_tailWalk`, `keeps_backfillWalk`, …). The retry pass and the Chainflip sync take the whole
set out first and put what stays pending back before reporting: the Chainflip sync on every exit,
the retry pass on every exit but a crash (an event accepted with neither record nor id), which
ends it before the ids are put back. `run_keeps_gauge` puts the passes together.
-/

namespace SwapArchive

set_option autoImplicit false

open PassM Ingestor

variable {σ : Type} (svc : Services σ) {others : σ × IngestMetrics → List (String × List String)}
  {k : String}

/-- Looking up a kind's Midgard source makes no call: a pass built on it keeps what the pass keeps
for the source found. -/
theorem keeps_midgard_bind {I : Observed (σ × IngestMetrics) → Prop} {β : Type} (g : Ingestor) (kind : String)
    {f : MidgardSource (Observed (σ × IngestMetrics)) → PassM (Observed (σ × IngestMetrics)) β}
    (hf : ∀ cfg, g.midgardSource kind = some cfg →
      Keeps I (f ⟨cfg, Transformer.new cfg, recordWriter (svc.metered.observed others) cfg⟩)) :
    Keeps I (g.midgard (svc.metered.observed others) kind >>= f) := by
  unfold midgard
  split
  · rw [pure_bind]
    rename_i hcfg
    exact hf _ hcfg
  · exact fun _ h => h

/-- Asking for a lock and freeing it touch neither the metrics nor the pending sets. -/
theorem keeps_exclusive {key : String} {body : PassM (Observed (σ × IngestMetrics)) Unit}
    (hbody : Keeps (Synced k) body) : Keeps (Synced k) (exclusive (svc.metered.observed others) key body) :=
  Keeps.exclusive (fun _ h => h) (fun _ h => h) hbody

section Walks

variable (hothers : ∀ w, ∀ t ∈ others w, t.1 ≠ k) (src : MidgardSource (Observed (σ × IngestMetrics)))
  (hW : src.writer.Beside others)
include hothers hW

theorem keeps_tailWalk (left : Nat) (page : ActionsPage) :
    Keeps (Synced k) (tailWalk (svc.metered.observed others) src left page) := by
  induction left generalizing page with
  | zero => exact Keeps.pure _
  | succ left ih =>
    unfold tailWalk
    refine Keeps.ite _ (Keeps.pure _) ?_
    refine Keeps.bind (keeps_takePage svc src _ _) fun records => ?_
    refine Keeps.bind (keeps_loadEach svc hothers src hW _ records) fun _ => ?_
    refine Keeps.ite _ (Keeps.pure _) ?_
    exact Keeps.bind (keeps_fetch svc hothers _ _) fun older => ih older

theorem keeps_flush (st : BackfillState) (next : String) :
    Keeps (Synced k) (flush (svc.metered.observed others) src st next) :=
  Keeps.bind (keeps_loadBatch svc hothers _ hW _ _) fun _ => Keeps.pure _

theorem keeps_finishBackfill (st : BackfillState) :
    Keeps (Synced k) (finishBackfill (svc.metered.observed others) src st) :=
  Keeps.bind (keeps_flush svc hothers src hW st _) fun _ => keeps_saveCursor svc hothers _ _ _

theorem keeps_backfillWalk (flushEvery left : Nat) (page : ActionsPage) (st : BackfillState) :
    Keeps (Synced k) (backfillWalk (svc.metered.observed others) src flushEvery left page st) := by
  induction left generalizing page st with
  | zero => exact Keeps.pure _
  | succ left ih =>
    unfold backfillWalk
    refine Keeps.ite _ (Keeps.pure _) ?_
    refine Keeps.bind (keeps_takePage svc src _ _) fun records => ?_
    dsimp only
    refine Keeps.ite_bind _ (keeps_flush svc hothers src hW _ _) (Keeps.pure _) fun st => ?_
    refine Keeps.bind (keeps_saveCursor svc hothers _ _ _) fun _ => ?_
    refine Keeps.bind Keeps.get fun _ => Keeps.ite _ (Keeps.pure _) ?_
    refine Keeps.bind (keeps_perform_ask hothers _ _) fun r => ?_
    rcases r with m | older
    · exact Keeps.bind (keeps_finishBackfill svc hothers src hW _) fun _ => Keeps.throw _
    · exact ih older _

theorem keeps_forwardWalk (left : Nat) (cursor : String) :
    Keeps (Synced k) (forwardWalk (svc.metered.observed others) src left cursor) := by
  induction left generalizing cursor with
  | zero => exact Keeps.pure _
  | succ left ih =>
    unfold forwardWalk
    refine Keeps.bind Keeps.get fun _ => Keeps.ite _ (Keeps.pure _) ?_
    refine Keeps.bind (keeps_fetch svc hothers _ _) fun page => Keeps.ite _ (Keeps.pure _) ?_
    refine Keeps.bind (keeps_takePage svc src _ _) fun records => ?_
    refine Keeps.bind (keeps_loadBatch svc hothers _ hW _ _) fun _ => Keeps.ite _ (Keeps.pure _) ?_
    exact Keeps.bind (keeps_saveCursor svc hothers _ _ _) fun _ => ih _

theorem keeps_reconcileWalk (start stop : Instant) (left : Nat) (page : ActionsPage) :
    Keeps (Synced k) (reconcileWalk (svc.metered.observed others) src start stop left page) := by
  induction left generalizing page with
  | zero => exact Keeps.pure _
  | succ left ih =>
    unfold reconcileWalk
    refine Keeps.ite _ (Keeps.pure _) ?_
    refine Keeps.bind (keeps_takePage svc src _ _) fun records => ?_
    refine Keeps.bind (keeps_loadBatch svc hothers _ hW _ _) fun _ => Keeps.ite _ (Keeps.pure _) ?_
    exact Keeps.bind (keeps_fetch svc hothers _ _) fun older => ih older

end Walks

section Passes

variable (hothers : ∀ w, ∀ t ∈ others w, t.1 ≠ k) (g : Ingestor) (kind : String)
include hothers

theorem keeps_liveTail : Keeps (Synced k) (liveTail (svc.metered.observed others) g kind) := by
  unfold liveTail
  refine keeps_midgard_bind svc g kind fun cfg _ => keeps_exclusive svc ?_
  refine Keeps.bind (keeps_attempt_ask hothers _ _ _) fun latest => ?_
  have hwalk := fun start : Int => Keeps.bind (keeps_fetch svc hothers kind (.latest start)) fun page =>
    keeps_tailWalk svc hothers ⟨cfg, Transformer.new cfg, recordWriter (svc.metered.observed others) cfg⟩
      (recordWriter_beside svc others cfg) g.maxPages page
  dsimp only
  split
  · exact Keeps.bind (Keeps.pure _) hwalk
  · exact Keeps.bind Keeps.get fun _ => Keeps.bind (Keeps.pure _) hwalk

theorem keeps_backfill : Keeps (Synced k) (backfill (svc.metered.observed others) g kind) := by
  unfold backfill
  refine keeps_midgard_bind svc g kind fun cfg _ => keeps_exclusive svc ?_
  have hW := recordWriter_beside svc others cfg
  refine Keeps.bind (keeps_attempt_ask hothers _ _ _) fun cursor => ?_
  refine Keeps.bind (keeps_fetch svc hothers _ _) fun first => ?_
  exact Keeps.bind (keeps_backfillWalk svc hothers _ hW _ _ first _) fun st =>
    keeps_finishBackfill svc hothers _ hW st

theorem keeps_forwardHistory : Keeps (Synced k) (forwardHistory (svc.metered.observed others) g kind) := by
  unfold forwardHistory
  refine keeps_midgard_bind svc g kind fun cfg _ => keeps_exclusive svc ?_
  exact Keeps.bind (keeps_attempt_ask hothers _ _ _) fun cursor =>
    keeps_forwardWalk svc hothers _ (recordWriter_beside svc others cfg) _ cursor

theorem keeps_reconcile (start stop : Instant) :
    Keeps (Synced k) (reconcile (svc.metered.observed others) g kind start stop) := by
  unfold reconcile
  refine keeps_midgard_bind svc g kind fun cfg _ => keeps_exclusive svc ?_
  exact Keeps.bind (keeps_fetch svc hothers _ _) fun page =>
    keeps_reconcileWalk svc hothers _ (recordWriter_beside svc others cfg) _ _ _ page

theorem keeps_closingPrice : Keeps (Synced k) (Ingestor.closingPrice (svc.metered.observed others) g) := by
  unfold Ingestor.closingPrice
  refine Keeps.ite _ (Keeps.throw _) ?_
  refine Keeps.bind Keeps.get fun _ => ?_
  exact Keeps.bind (keeps_attempt_ask hothers _ _ _) fun _ => keeps_attempt_ask hothers _ _ _

end Passes

/-! ## Passes that take a kind's set out -/

/-- The gauge of `k` ends in step with its set, unless the run crashed. -/
def SyncedUnlessCrashed {α : Type} (k : String) (r : Except PassError α × Observed (σ × IngestMetrics)) : Prop :=
  Synced k r.2 ∨ ∃ m, r.1 = .error (.crash m)

theorem keeps_drainPending_of_ne {kind : String} (hk : kind ≠ k) :
    Keeps (Synced k) (perform ((svc.metered.observed others).drainPending kind)) :=
  Keeps.perform fun o h => Synced.congr (o := o) rfl (Registry.get_drain_of_ne _ (Ne.symm hk)) h

theorem keeps_modify_trackPending_of_ne {kind : String} (hk : kind ≠ k) (ids : List String) :
    Keeps (Synced k) (modify ((svc.metered.observed others).trackPending kind ids) :
      PassM (Observed (σ × IngestMetrics)) Unit) :=
  Keeps.modify fun o h => Synced.congr (o := o) rfl (Registry.get_track_of_ne _ (Ne.symm hk) ids) h

/-- Reporting the set of `k` brings its gauge in step, and a rest that keeps it so ends in step. -/
theorem synced_reportPending_bind {β : Type} {f : Unit → PassM (Observed (σ × IngestMetrics)) β}
    (hf : Keeps (Synced k) (f ())) (o : Observed (σ × IngestMetrics)) :
    Synced k (exec (reportPending (svc.metered.observed others) k >>= f) o).2 := by
  rw [exec_bind, exec_reportPending]
  exact hf _ (synced_reportPending svc k o : Synced k (exec (reportPending (svc.metered.observed others) k) o).2)

/-- Under the lock, from a state in step, a body that ends in step unless it crashes. -/
theorem syncedUnlessCrashed_exclusive {key : String} {body : PassM (Observed (σ × IngestMetrics)) Unit}
    (hbody : ∀ o, Synced k o → SyncedUnlessCrashed k (exec body o)) (o : Observed (σ × IngestMetrics))
    (h : Synced k o) : SyncedUnlessCrashed k (exec (exclusive (svc.metered.observed others) key body) o) := by
  rcases hlock : (svc.metered.observed others).tryLock key o with ⟨_ | _, o₁⟩
  · rw [exclusive_skip _ hlock]
    obtain rfl : o₁ = ((svc.metered.observed others).tryLock key o).2 := by rw [hlock]
    exact .inl h
  · rw [exclusive_taken _ hlock]
    obtain rfl : o₁ = ((svc.metered.observed others).tryLock key o).2 := by rw [hlock]
    rcases hbody ((svc.metered.observed others).tryLock key o).2 h with hs | hcrash
    · exact .inl hs
    · exact .inr hcrash

section Retry

variable (hothers : ∀ w, ∀ t ∈ others w, t.1 ≠ k) {src : MidgardSource (Observed (σ × IngestMetrics))}
include hothers

theorem keeps_judge (hW : src.writer.Beside others) (actions : List Action) (v : RetryVerdict) :
    Keeps (Synced k) (judge src actions v) := by
  induction actions generalizing v with
  | nil => exact Keeps.pure _
  | cons a rest ih =>
    unfold judge
    split
    · exact ih _
    · exact Keeps.throw _
    · exact ih _
    · refine Keeps.bind (Keeps.lift fun o h => (synced_ask hothers).loadOne hW _ h) fun r => ?_
      split
      · exact ih _
      · exact ih _

/-- Looking up the ids of another kind keeps the gauge of `k`. -/
theorem keeps_retryEach (hW : src.writer.Beside others) (hk : src.config.kind ≠ k) (ids : List String)
    (t : RetryTally) : Keeps (Synced k) (retryEach (svc.metered.observed others) src ids t) := by
  induction ids generalizing t with
  | nil => exact Keeps.pure _
  | cons id rest ih =>
    unfold retryEach
    refine Keeps.bind (keeps_perform_ask hothers _ _) fun r => ?_
    split
    · exact Keeps.bind (keeps_modify_trackPending_of_ne svc hk _) fun _ =>
        Keeps.bind (keeps_reportPending svc _) fun _ => Keeps.throw _
    · exact Keeps.ite _ (ih _) (Keeps.bind (keeps_judge hothers hW _ _) fun _ => ih _)

end Retry

/-- Looking up a kind's own ids: a failed lookup puts back the ids not settled yet and reports
the set, and judging fails only on a crash, so every failure ends in step or is a crash. -/
theorem retryEach_fails_synced {src : MidgardSource (Observed (σ × IngestMetrics))} {policy : String}
    {batch : List SwapRecord → σ × IngestMetrics → Except String Unit × (σ × IngestMetrics)}
    {one : SwapRecord → σ × IngestMetrics → Except String Unit × (σ × IngestMetrics)}
    (hW : src.writer.Logs others .record policy batch one) (ids : List String) (t : RetryTally)
    (o : Observed (σ × IngestMetrics)) (e : PassError)
    (he : (exec (retryEach (svc.metered.observed others) src ids t) o).1 = .error e) :
    SyncedUnlessCrashed src.config.kind (exec (retryEach (svc.metered.observed others) src ids t) o) := by
  induction ids generalizing t o with
  | nil => cases he
  | cons id rest ih =>
    revert he
    unfold retryEach
    rw [exec_bind, exec_perform]
    dsimp only
    split
    · intro _
      rw [exec_bind, exec_modify]
      exact .inl (synced_reportPending_bind svc (Keeps.throw _) _)
    · split
      · exact ih _ _
      · rw [exec_bind]
        rcases hj : exec (judge src _ ⟨false, false, 0⟩) _ with ⟨_ | v, o₂⟩
        · rename_i e'
          intro _
          obtain ⟨-, -, -, -, herr⟩ := judge_spec hW _ ⟨false, false, 0⟩ _
          rw [hj] at herr
          obtain rfl := (herr e' rfl).1
          exact .inr ⟨_, rfl⟩
        · exact ih _ _

section RetryPass

variable (g : Ingestor) (kind : String)

/-- The retry pass of another kind keeps the gauge of `k`. -/
theorem keeps_retryPending (hothers : ∀ w, ∀ t ∈ others w, t.1 ≠ k) (hk : kind ≠ k) :
    Keeps (Synced k) (retryPending (svc.metered.observed others) g kind) := by
  unfold retryPending
  refine keeps_midgard_bind svc g kind fun cfg hcfg => keeps_exclusive svc ?_
  have hk' : cfg.kind ≠ k := midgardSource_kind hcfg ▸ hk
  refine Keeps.bind (keeps_drainPending_of_ne svc hk) fun ids => Keeps.ite _ (keeps_reportPending svc _) ?_
  refine Keeps.bind (keeps_retryEach svc hothers (recordWriter_beside svc others cfg) hk' _ _) fun t => ?_
  refine Keeps.bind (keeps_modify_trackPending_of_ne svc hk _) fun _ => ?_
  refine Keeps.bind (keeps_report svc (p := .recordsLoaded _ _ _ _) rfl) fun _ => ?_
  dsimp only
  split
  · exact Keeps.bind (keeps_report svc (p := .recordsSkipped _ _ _) rfl) fun _ => keeps_reportPending svc _
  · exact keeps_reportPending svc _

/-- The retry pass of a kind ends with the kind's gauge in step with its set, unless an event
accepted as pending without id crashed it: the ids not settled go back and the set is reported
on every other exit. -/
theorem retryPending_synced_or_crashed (o : Observed (σ × IngestMetrics)) (h : Synced kind o) :
    SyncedUnlessCrashed kind (exec (retryPending (svc.metered.observed others) g kind) o) := by
  unfold retryPending
  rw [exec_bind, exec_midgard]
  rcases hcfg : g.midgardSource kind with _ | cfg
  · exact .inl h
  · dsimp only
    refine syncedUnlessCrashed_exclusive svc (fun o₁ _ => ?_) o h
    obtain rfl := midgardSource_kind hcfg
    rw [exec_bind, exec_perform]
    dsimp only
    split
    · exact .inl (synced_reportPending svc _ _)
    rw [exec_bind]
    rcases hr : exec (retryEach (svc.metered.observed others) ⟨cfg, Transformer.new cfg,
      recordWriter (svc.metered.observed others) cfg⟩ _ ⟨[], 0, 0⟩) _ with ⟨_ | t, o₂⟩
    · have hfail := retryEach_fails_synced svc (recordWriter_logs svc.metered cfg) _ _ _ _ (by rw [hr])
      rw [hr] at hfail
      dsimp only
      rcases hfail with hs | ⟨m, hm⟩
      · exact .inl hs
      · exact .inr ⟨m, by simpa using hm⟩
    · refine .inl ?_
      dsimp only
      rw [exec_bind, exec_modify]
      dsimp only
      rw [exec_bind, exec_report]
      dsimp only
      split
      · rw [exec_bind, exec_report]
        exact synced_reportPending svc _ _
      · exact synced_reportPending svc _ _

end RetryPass

/-! ## The Chainflip sync -/

section Chainflip

variable (hothers : ∀ w, ∀ t ∈ others w, t.1 ≠ k) (g : Ingestor) (target : Source) (size : Nat)
include hothers

theorem keeps_syncPage (offset : Nat) (out : List String) :
    StateKeeps (Synced k) (syncPage (svc.metered.observed others) target size offset out) := by
  unfold syncPage
  refine StateKeeps.bind (StateKeeps.modifyGet fun o h => synced_ask hothers _ _ _ o h) fun r => ?_
  split
  · exact StateKeeps.pure _
  split
  · exact StateKeeps.pure _
  refine StateKeeps.bind (StateKeeps.modify
    (keeps_report svc (p := .pageFetched _ _) rfl : Keeps (Synced k) (report (svc.metered.observed others) _))) fun _ => ?_
  dsimp only
  refine StateKeeps.ite_modify _
    (keeps_report svc (p := .recordsSkipped _ _ _) rfl : Keeps (Synced k) (report (svc.metered.observed others) _)) ?_
  refine StateKeeps.bind (StateKeeps.modifyGet fun o h => synced_ask hothers _ _ _ o h) fun r => ?_
  split
  · exact StateKeeps.pure _
  refine StateKeeps.bind
    (StateKeeps.run (keeps_loadBatch svc hothers _ (swapWriter_beside svc others target) _ _)) fun r => ?_
  split
  · exact StateKeeps.pure _
  · split
    · exact StateKeeps.pure _
    · exact StateKeeps.pure _

theorem keeps_syncWalk (left offset : Nat) (out : List String) :
    StateKeeps (Synced k) (syncWalk (svc.metered.observed others) target size left offset out) := by
  induction left generalizing offset out with
  | zero => exact StateKeeps.pure _
  | succ left ih =>
    unfold syncWalk
    refine StateKeeps.bind (keeps_syncPage svc hothers target size offset out) fun step => ?_
    split
    · exact StateKeeps.pure _
    · exact StateKeeps.pure _
    · exact ih _ _

/-- The Chainflip sync keeps the gauge of every other kind. -/
theorem keeps_syncChainflip (hk : Source.chainflip ≠ k) :
    Keeps (Synced k) (syncChainflip (svc.metered.observed others) g) := by
  unfold syncChainflip
  split
  · dsimp only
    refine keeps_exclusive svc ?_
    refine Keeps.bind (keeps_drainPending_of_ne svc hk) fun drained => ?_
    refine Keeps.bind (Keeps.lift (keeps_syncWalk svc hothers _ _ _ _ _)) fun x => ?_
    obtain ⟨out, r⟩ := x
    dsimp only
    refine Keeps.bind (keeps_modify_trackPending_of_ne svc hk _) fun _ => ?_
    refine Keeps.bind (keeps_reportPending svc _) fun _ => ?_
    split
    · exact Keeps.pure _
    · exact Keeps.throw _
  · exact Keeps.throw _

end Chainflip

/-- The Chainflip sync puts the ids still outstanding back and reports the set on every exit, so
its own gauge ends in step whatever the feed and the table answer. -/
theorem syncChainflip_synced (g : Ingestor) (o : Observed (σ × IngestMetrics)) (h : Synced Source.chainflip o) :
    Synced Source.chainflip (exec (syncChainflip (svc.metered.observed others) g) o).2 := by
  unfold syncChainflip
  split
  · dsimp only
    refine Keeps.exclusive (fun _ h => h) (fun _ h => h) (fun o₁ _ => ?_) o h
    rw [exec_bind, exec_perform]
    dsimp only
    rw [exec_bind, exec_lift]
    dsimp only
    rw [exec_bind, exec_modify]
    dsimp only
    refine synced_reportPending_bind svc ?_ _
    split
    · exact Keeps.pure _
    · exact Keeps.throw _
  · exact h

/-- Every pass leaves the gauge of `k` in step with its set when it found it so, unless it
crashed, as long as no other caller tracks ids of `k` meanwhile. -/
theorem run_keeps_gauge (hothers : ∀ w, ∀ t ∈ others w, t.1 ≠ k) (g : Ingestor) (req : PassRequest)
    (o : Observed (σ × IngestMetrics)) (h : Synced k o) :
    SyncedUnlessCrashed k (exec (g.run (svc.metered.observed others) req) o) := by
  cases req with
  | liveTail kind => exact .inl (keeps_liveTail svc hothers g kind o h)
  | backfill kind => exact .inl (keeps_backfill svc hothers g kind o h)
  | forwardHistory kind => exact .inl (keeps_forwardHistory svc hothers g kind o h)
  | reconcile kind a b => exact .inl (keeps_reconcile svc hothers g kind _ _ o h)
  | retryPending kind =>
    by_cases hk : kind = k
    · subst hk
      exact retryPending_synced_or_crashed svc g kind o h
    · exact .inl (keeps_retryPending svc g kind hothers hk o h)
  | syncChainflip =>
    by_cases hk : Source.chainflip = k
    · subst hk
      exact .inl (syncChainflip_synced svc g o h)
    · exact .inl (keeps_syncChainflip svc hothers g hk o h)
  | closingPrice => exact .inl (keeps_closingPrice svc hothers g o h)

end SwapArchive
