import SwapArchive.Proofs.Pass.Observed

/-!
# The shared steps of a pass, observed

What the steps the Midgard passes share do when run over `Services.observed`: a page request
(`exec_fetch`) and a cursor save (`exec_saveCursor`) are one call each, whose failure is the
pass's; transforming a page (`exec_takePage`) makes no call and tracks the page's pending ids;
storing records (`exec_loadBatch`) is the batch call and, if it is refused, one call per row, the
pass going on exactly when the batch was stored whole or some row alone (`Taken`). A writer is
taken apart through `Writer.Logs`, which says its batches and single rows are logged calls of the
observed world, as the record and swap writers of observed services are.
-/

namespace SwapArchive

open PassM

variable {σ α : Type} {others : σ → List (String × List String)}

/-- The calls of storing `rows` through a loader: the batch, answered `a`, then, when the batch
was refused, each row on its own with its answer. -/
def batchCalls (table policy : String) (rows : List Row) (a : Except String Unit)
    (answers : List (Except String Unit)) : List Call :=
  .storeBatch table policy rows a :: match a with
    | .ok () => []
    | .error _ => List.zipWith (.storeOne table policy) rows answers

/-- A loader took a batch when it was stored whole, or when some row of it was stored on its own
after the batch was refused. -/
def Taken (a : Except String Unit) (answers : List (Except String Unit)) : Prop :=
  a = .ok () ∨ .ok () ∈ answers

namespace Writer

/-- `W` stores batches through `batch` and single rows through `one`, each store a logged call
of the observed world naming `W`'s table, the conflict policy and the rows. -/
structure Logs (others : σ → List (String × List String)) (W : Writer (Observed σ) α) (inj : α → Row)
    (policy : String) (batch : List α → σ → Except String Unit × σ) (one : α → σ → Except String Unit × σ) :
    Prop where
  storeBatch : ∀ xs, W.storeBatch xs = Observed.ask others (batch xs) (.storeBatch W.table policy (xs.map inj))
  storeOne : ∀ x, W.storeOne x = Observed.ask others (one x) (.storeOne W.table policy (inj x))

section Logs

variable {W : Writer (Observed σ) α} {inj : α → Row} {policy : String}
  {batch : List α → σ → Except String Unit × σ} {one : α → σ → Except String Unit × σ}

/-- One row stored on its own is one call; a refusal names the row's key and the table. -/
theorem loadOne_logs (hW : W.Logs others inj policy batch one) (x : α) (o : Observed σ) :
    (W.loadOne x).run o =
      (match (one x o.world).1 with
        | .ok () => .ok ()
        | .error c => .error ⟨"insert " ++ W.key x, W.table, c⟩,
       o.after others (one x o.world).2 (.storeOne W.table policy (inj x) (one x o.world).1)) := by
  unfold loadOne
  simp only [hW.storeOne]
  rcases h : (one x o.world).1 with _ | ⟨⟩ <;> simp [Observed.ask, h, StateT.run, modifyGet,
    MonadStateOf.modifyGet, StateT.modifyGet, bind, StateT.bind, pure, StateT.pure]

/-- Rows stored one by one are one call each, in order; the count stored is the number of rows
the store took and there is one failure per row it refused. -/
theorem loadEach_logs (hW : W.Logs others inj policy batch one) (xs : List α) (o : Observed σ) :
    ∃ answers : List (Except String Unit), answers.length = xs.length ∧
      Observed.Moves o (List.zipWith (.storeOne W.table policy) (xs.map inj) answers)
        ((W.loadEach xs).run o).2 ∧
      ((W.loadEach xs).run o).1.1 = answers.countP (·.isOk) ∧
      ((W.loadEach xs).run o).1.2.length = answers.countP (! ·.isOk) := by
  induction xs generalizing o with
  | nil => exact ⟨[], rfl, Observed.Moves.refl o, rfl, rfl⟩
  | cons x xs ih =>
    rcases ho : one x o.world with ⟨a, w₁⟩
    let o₁ := o.after others w₁ (.storeOne W.table policy (inj x) a)
    obtain ⟨answers, hlen, hmoves, hn, herrs⟩ := ih o₁
    have hrun : (W.loadEach (x :: xs)).run o =
        (match a with
          | .ok () => (((W.loadEach xs).run o₁).1.1 + 1, ((W.loadEach xs).run o₁).1.2)
          | .error c => (((W.loadEach xs).run o₁).1.1,
              ⟨"insert " ++ W.key x, W.table, c⟩ :: ((W.loadEach xs).run o₁).1.2),
         ((W.loadEach xs).run o₁).2) := by
      simp only [loadEach, StateT.run_bind, loadOne_logs hW x o, ho]
      rcases a with _ | ⟨⟩ <;> rfl
    refine ⟨a :: answers, by simp [hlen], ?_, ?_, ?_⟩
    · rw [hrun]
      exact (Observed.Moves.after others o _ _).trans hmoves
    · rw [hrun]
      rcases a with _ | ⟨⟩ <;> simp [hn, Except.isOk, Except.toBool]
    · rw [hrun]
      rcases a with _ | ⟨⟩ <;> simp [herrs, Except.isOk, Except.toBool]

/-- An answer of the store is a success exactly when it is not a refusal. -/
theorem isOk_iff (a : Except String Unit) : a.isOk = true ↔ a = .ok () := by
  rcases a with _ | ⟨⟩ <;> simp [Except.isOk, Except.toBool]

/-- A batch is one call and, if the store refuses it, one call per row; the loader reports
nothing stored and some failure exactly when it did not take the batch. -/
theorem loadBatch_logs (hW : W.Logs others inj policy batch one) {xs : List α} (hne : xs ≠ [])
    (o : Observed σ) :
    ∃ a answers, (a ≠ .ok () → answers.length = xs.length) ∧
      Observed.Moves o (batchCalls W.table policy (xs.map inj) a answers) ((W.loadBatch xs).run o).2 ∧
      (((W.loadBatch xs).run o).1.1 = 0 ∧ ((W.loadBatch xs).run o).1.2 ≠ [] ↔ ¬Taken a answers) := by
  have hne' : xs.isEmpty = false := List.isEmpty_eq_false_iff.2 hne
  rcases hb : batch xs o.world with ⟨a, w₁⟩
  let o₁ := o.after others w₁ (.storeBatch W.table policy (xs.map inj) a)
  have hstore : (W.storeBatch xs o) = (a, o₁) := by simp [hW.storeBatch, Observed.ask, hb, o₁]
  rcases a with m | ⟨⟩
  · have hrun : (W.loadBatch xs).run o = (W.loadEach xs).run o₁ := by
      simp only [Writer.loadBatch, hne', Bool.false_eq_true, if_false, StateT.run_bind,
        StateT.run_modifyGet, hstore]
      rfl
    obtain ⟨answers, hlen, hmoves, hn, herrs⟩ := loadEach_logs hW xs o₁
    refine ⟨.error m, answers, fun _ => hlen, ?_, ?_⟩
    · rw [hrun]
      exact (Observed.Moves.after others o _ _).trans hmoves
    · rw [hrun]
      have hlen0 : answers.length ≠ 0 := by
        rw [hlen]
        exact fun h => hne (List.eq_nil_of_length_eq_zero h)
      simp only [hn, List.countP_eq_zero, isOk_iff, ne_eq, Taken, reduceCtorEq, false_or]
      constructor
      · rintro ⟨hall, -⟩ hmem
        exact hall _ hmem rfl
      · intro hnot
        have hall : ∀ b ∈ answers, ¬b = .ok () := fun b hb hb' => hnot (hb' ▸ hb)
        refine ⟨hall, fun hnil => ?_⟩
        have hzero := congrArg List.length hnil
        rw [herrs, List.length_nil, List.countP_eq_zero] at hzero
        obtain ⟨b, hb⟩ := List.exists_mem_of_length_pos (Nat.pos_of_ne_zero hlen0)
        have hb' : b.isOk = false := Bool.eq_false_iff.2 fun h => hall b hb ((isOk_iff b).1 h)
        exact hzero b hb (by rw [hb']; rfl)
  · have hrun : (W.loadBatch xs).run o = ((xs.length, []), o₁) := by
      simp only [Writer.loadBatch, hne', Bool.false_eq_true, if_false, StateT.run_bind,
        StateT.run_modifyGet, hstore]
      rfl
    refine ⟨.ok (), [], fun h => absurd rfl h, ?_, ?_⟩
    · rw [hrun]
      exact Observed.Moves.after others o _ _
    · rw [hrun]
      simp [Taken]

end Logs

end Writer

namespace Ingestor

/-- The record writer of observed services logs its stores as rows of swap records. -/
theorem recordWriter_logs (svc : Services σ) (src : Source) :
    (recordWriter (svc.observed others) src).Logs others .record src.conflict
      (svc.storeRecords src.table src.conflict) (svc.storeRecord src.table src.conflict) :=
  ⟨fun _ => rfl, fun _ => rfl⟩

/-- The swap writer of observed services logs its stores as rows of Chainflip swaps. -/
theorem swapWriter_logs (svc : Services σ) (src : Source) :
    (swapWriter (svc.observed others) src).Logs others .swap src.conflict
      (svc.storeSwaps src.table src.conflict) (svc.storeSwap src.table src.conflict) :=
  ⟨fun _ => rfl, fun _ => rfl⟩

/-- A Midgard source is one of the configured sources of the kind asked for. -/
theorem midgardSource_kind {g : Ingestor} {kind : String} {src : Source}
    (h : g.midgardSource kind = some src) : src.kind = kind := by
  have hmem := List.mem_of_getLast? h
  simp only [List.mem_filter, decide_eq_true_eq] at hmem
  exact hmem.2.2.1

theorem exec_midgard (g : Ingestor) (svc : Services σ) (kind : String) (s : σ) :
    exec (g.midgard svc kind) s = match g.midgardSource kind with
      | some src => (.ok ⟨src, Transformer.new src, recordWriter svc src⟩, s)
      | none => (.error (.noMidgardFeed kind), s) := by
  unfold midgard
  cases h : g.midgardSource kind <;> rfl

variable (svc : Services σ)

/-- A page request is one call; a failing feed ends the pass with its text. -/
theorem exec_fetch (kind : String) (req : PageRequest) (o : Observed σ) :
    exec (fetch (svc.observed others) kind req) o =
      ((svc.fetchPage kind req o.world).1.mapError PassError.remote,
        o.after others (svc.fetchPage kind req o.world).2 (.page kind req (svc.fetchPage kind req o.world).1)) := by
  unfold fetch
  rw [exec_attempt]
  simp only [Services.observed, Observed.ask]
  rcases (svc.fetchPage kind req o.world).1 with _ | _ <;> rfl

/-- Storing no record makes no call and goes on. -/
@[simp] theorem exec_loadBatch_nil {τ : Type} (svc' : Services τ) (kind : String) (W : Writer τ α)
    (pass : PassName) (s : τ) : exec (loadBatch svc' kind W pass []) s = (.ok (), s) := rfl

/-- Storing no record makes no call and goes on. -/
theorem exec_loadBatch_of_nil {τ : Type} (svc' : Services τ) (kind : String) (W : Writer τ α) (pass : PassName)
    {xs : List α} (h : xs = []) (s : τ) : exec (loadBatch svc' kind W pass xs) s = (.ok (), s) := by
  subst h
  rfl

/-- Storing records is the loader's calls, and the pass goes on exactly when the loader took the
batch. -/
theorem exec_loadBatch {W : Writer (Observed σ) α} {inj : α → Row} {policy : String}
    {batch : List α → σ → Except String Unit × σ} {one : α → σ → Except String Unit × σ}
    (hW : W.Logs others inj policy batch one) (kind : String) (pass : PassName) {xs : List α}
    (hne : xs ≠ []) (o : Observed σ) :
    ∃ a answers, (a ≠ .ok () → answers.length = xs.length) ∧
      Observed.Moves o (batchCalls W.table policy (xs.map inj) a answers)
        (exec (loadBatch (svc.observed others) kind W pass xs) o).2 ∧
      ((exec (loadBatch (svc.observed others) kind W pass xs) o).1 = .ok () ↔ Taken a answers) := by
  have hne' : xs.isEmpty = false := List.isEmpty_eq_false_iff.2 hne
  obtain ⟨a, answers, hlen, hmoves, htaken⟩ := Writer.loadBatch_logs hW hne o
  simp only [loadBatch, hne', Bool.false_eq_true, if_false]
  rw [exec_bind, exec_lift]
  dsimp only
  rw [exec_bind, exec_report]
  dsimp only
  refine ⟨a, answers, hlen, ?_, ?_⟩
  · rcases hr : (W.loadBatch xs).run o with ⟨⟨_ | n, _ | ⟨e, errs⟩⟩, o₁⟩ <;> rw [hr] at hmoves <;>
      exact hmoves.setWorld _
  · rcases hr : (W.loadBatch xs).run o with ⟨⟨_ | n, _ | ⟨e, errs⟩⟩, o₁⟩ <;> rw [hr] at htaken <;>
      simp at htaken ⊢ <;> assumption

theorem exec_saveCursor (kind : String) (dir : Direction) (cursor : String) (o : Observed σ) :
    (exec (saveCursor (svc.observed others) kind dir cursor) o).1 =
      (svc.writeCursor kind dir cursor o.world).1.mapError PassError.cursor ∧
    Observed.Moves o [.writeCursor kind dir cursor (svc.writeCursor kind dir cursor o.world).1]
      (exec (saveCursor (svc.observed others) kind dir cursor) o).2 := by
  unfold saveCursor
  rw [exec_bind, exec_attempt]
  simp only [Services.observed, Observed.ask]
  rcases (svc.writeCursor kind dir cursor o.world) with ⟨_ | ⟨⟩, w⟩
  · exact ⟨rfl, Observed.Moves.after others o _ _⟩
  · exact ⟨rfl, (Observed.Moves.after others o _ _).setWorld _⟩

/-- Reporting a kind's pending set makes no call; it only makes sure the kind has a set. -/
theorem exec_reportPending (kind : String) (o : Observed σ) :
    exec (reportPending (svc.observed others) kind) o =
      (.ok (), { o with
        pending := o.pending.touch kind
        world := svc.report (.pendingSize kind (o.pending.size kind)) o.world }) := rfl

/-- Transforming a page makes no call; the pass goes on with the page's records, or stops at an
action accepted without record and without id. -/
theorem exec_takePage (src : MidgardSource (Observed σ)) (pass : PassName) (actions : List Action)
    (o : Observed σ) :
    (exec (takePage (svc.observed others) src pass actions) o).1 =
      (match src.transformer.transformPage actions with
        | .ok res => .ok res.records
        | .error m => .error (.crash m)) ∧
    (exec (takePage (svc.observed others) src pass actions) o).2.calls = o.calls := by
  unfold takePage
  rcases src.transformer.transformPage actions with m | res
  · exact ⟨rfl, rfl⟩
  · simp only [exec_bind, exec_report, exec_ite, trackPending, reportPending, exec_modify,
      exec_perform, exec_pure]
    split <;> exact ⟨rfl, rfl⟩

end Ingestor

end SwapArchive
