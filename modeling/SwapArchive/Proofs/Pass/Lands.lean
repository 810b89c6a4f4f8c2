import SwapArchive.Proofs.Pass.CallLog

/-!
# Where a step of a pass lands

`Lands Inv Q o r` says of a step run from the observed world `o` and ending in `r` that it only
added calls to the log, that the log it leaves satisfies `Inv` whatever its outcome, and that when
it succeeds `Q` holds of where it ended and what it gave: a Hoare triple whose postcondition for
failures is an invariant of the log. `Lands.bind` chains two steps as the pass's `do` block does,
`Lands.pure` and `Lands.throw` end one, and `lands_readCursor`, `lands_fetch`, `lands_takePage`,
`lands_loadBatch` and `lands_saveCursor` are the steps the Midgard passes share.
-/

namespace SwapArchive

namespace Transformer

/-- The records a page becomes; none when the page cannot be transformed. -/
def records (t : Transformer) (p : ActionsPage) : List SwapRecord :=
  match t.transformPage p.items with
  | .ok res => res.records
  | .error _ => []

end Transformer

namespace Ingestor

/-- The records a page of a kind's feed becomes under the kind's Midgard source. -/
def pageRecords (g : Ingestor) (kind : String) (p : ActionsPage) : List SwapRecord :=
  match g.midgardSource kind with
  | some src => (Transformer.new src).records p
  | none => []

end Ingestor

variable {σ α β : Type} {others : σ → List (String × List String)}

/-- A step from `o` ended in `r`: it only added calls, the log after it satisfies `Inv`, and if
it succeeded, `Q` holds of where it ended and what it gave. -/
def Lands (Inv : List Call → Prop) (Q : Observed σ → α → Prop) (o : Observed σ)
    (r : Except PassError α × Observed σ) : Prop :=
  (∃ cs, r.2.calls = o.calls ++ cs) ∧ Inv r.2.calls ∧ ∀ a, r.1 = .ok a → Q r.2 a

namespace Lands

variable {Inv : List Call → Prop} {Q : Observed σ → α → Prop} {o : Observed σ}

theorem pure {a : α} (hinv : Inv o.calls) (hq : Q o a) : Lands Inv Q o (PassM.exec (Pure.pure a) o) := by
  refine ⟨⟨[], by simp⟩, hinv, fun b hb => ?_⟩
  cases hb
  exact hq

theorem throw {e : PassError} (hinv : Inv o.calls) : Lands Inv Q o (PassM.exec (MonadExcept.throw e) o) :=
  ⟨⟨[], by simp⟩, hinv, fun _ hb => by cases hb⟩

theorem mono {Q' : Observed σ → α → Prop} {r : Except PassError α × Observed σ} (h : Lands Inv Q o r)
    (hq : ∀ o' a, Q o' a → Q' o' a) : Lands Inv Q' o r :=
  ⟨h.1, h.2.1, fun a ha => hq _ _ (h.2.2 a ha)⟩

/-- A step landing after more calls lands from where those calls started. -/
theorem shift {o' : Observed σ} {cs : List Call} {r : Except PassError α × Observed σ}
    (hcs : o'.calls = o.calls ++ cs) (h : Lands Inv Q o' r) : Lands Inv Q o r := by
  obtain ⟨⟨cs', hcs'⟩, hinv, hq⟩ := h
  exact ⟨⟨cs ++ cs', by rw [hcs', hcs, List.append_assoc]⟩, hinv, hq⟩

/-- Two steps run one after the other land where the second does, from where the first ended. -/
theorem bind {R : Observed σ → β → Prop} {x : PassM (Observed σ) α} {f : α → PassM (Observed σ) β}
    (hx : Lands Inv Q o (PassM.exec x o)) (hf : ∀ a o', Q o' a → Lands Inv R o' (PassM.exec (f a) o')) :
    Lands Inv R o (PassM.exec (x >>= f) o) := by
  obtain ⟨⟨cs, hcs⟩, hinv, hq⟩ := hx
  rw [PassM.exec_bind]
  rcases hr : PassM.exec x o with ⟨_ | a, o'⟩
  · rw [hr] at hcs hinv
    exact ⟨⟨cs, hcs⟩, hinv, fun _ hb => by cases hb⟩
  · rw [hr] at hcs hq
    exact shift hcs (hf a o' (hq a rfl))

end Lands

namespace Ingestor

variable (svc : Services σ) {Inv : List Call → Prop} {o : Observed σ}

theorem observed_fetchPage (kind : String) (req : PageRequest) :
    (svc.observed others).fetchPage kind req o =
      ((svc.fetchPage kind req o.world).1,
        o.after others (svc.fetchPage kind req o.world).2 (.page kind req (svc.fetchPage kind req o.world).1)) :=
  rfl

/-- Asking for a page adds the page call with its answer. -/
theorem lands_fetchPage (kind : String) (req : PageRequest)
    (hinv : ∀ answer, Inv (o.calls ++ [.page kind req answer])) :
    Lands Inv (fun o' answer => o'.calls = o.calls ++ [.page kind req answer]) o
      (PassM.exec (PassM.perform ((svc.observed others).fetchPage kind req)) o) := by
  rw [PassM.exec_perform, observed_fetchPage]
  exact ⟨⟨_, rfl⟩, hinv _, fun _ h => by cases h; rfl⟩

theorem observed_readCursor (kind : String) (dir : Direction) :
    (svc.observed others).readCursor kind dir o =
      ((svc.readCursor kind dir o.world).1,
        o.after others (svc.readCursor kind dir o.world).2 (.readCursor kind dir (svc.readCursor kind dir o.world).1)) :=
  rfl

/-- Reading a saved cursor adds the read with its answer; the pass goes on with the cursor read. -/
theorem lands_readCursor (kind : String) (dir : Direction)
    (hinv : ∀ answer, Inv (o.calls ++ [.readCursor kind dir answer])) :
    Lands Inv (fun o' cursor => o'.calls = o.calls ++ [.readCursor kind dir (.ok cursor)]) o
      (PassM.exec (PassM.attempt ((svc.observed others).readCursor kind dir) PassError.cursor) o) := by
  rw [PassM.exec_attempt, observed_readCursor]
  rcases svc.readCursor kind dir o.world with ⟨e | cursor, w⟩ <;> dsimp only
  · exact ⟨⟨_, rfl⟩, hinv _, fun _ h => by cases h⟩
  · exact ⟨⟨_, rfl⟩, hinv _, fun _ h => by cases h; rfl⟩

/-- Saving a cursor adds the save with its answer. -/
theorem lands_saveCursor (kind : String) (dir : Direction) (cursor : String)
    (hinv : ∀ answer, Inv (o.calls ++ [.writeCursor kind dir cursor answer])) :
    Lands Inv (fun o' _ => ∃ answer, o'.calls = o.calls ++ [.writeCursor kind dir cursor answer]) o
      (PassM.exec (saveCursor (svc.observed others) kind dir cursor) o) := by
  obtain ⟨-, hmoves⟩ := exec_saveCursor svc kind dir cursor o
  exact ⟨⟨_, hmoves.1⟩, hmoves.1 ▸ hinv _, fun _ _ => ⟨_, hmoves.1⟩⟩

/-- Fetching a page adds the page call; the pass goes on with the page the feed gave. -/
theorem lands_fetch (kind : String) (req : PageRequest) (hinv : ∀ answer, Inv (o.calls ++ [.page kind req answer])) :
    Lands Inv (fun o' page => o'.calls = o.calls ++ [.page kind req (.ok page)]) o
      (PassM.exec (fetch (svc.observed others) kind req) o) := by
  rw [exec_fetch]
  refine ⟨⟨_, rfl⟩, hinv _, fun page h => ?_⟩
  rcases hans : (svc.fetchPage kind req o.world).1 with m | p <;> rw [hans] at h <;> cases h
  simp

/-- Transforming a page makes no call; the pass goes on with the page's records. -/
theorem lands_takePage (src : MidgardSource (Observed σ)) (pass : PassName) (page : ActionsPage)
    (hinv : Inv o.calls) :
    Lands Inv (fun o' records => o'.calls = o.calls ∧ records = src.transformer.records page) o
      (PassM.exec (takePage (svc.observed others) src pass page.items) o) := by
  obtain ⟨hres, hcalls⟩ := exec_takePage svc src pass page.items o
  refine ⟨⟨[], by rw [hcalls, List.append_nil]⟩, hcalls ▸ hinv, fun records h => ⟨hcalls, ?_⟩⟩
  rw [hres] at h
  unfold Transformer.records
  rcases ht : src.transformer.transformPage page.items with m | res <;> rw [ht] at h <;> cases h
  rfl

/-- Storing records through a logged writer makes quiet calls; when the loader took them, the
records are the rows those calls took. -/
theorem lands_loadBatch {W : Writer (Observed σ) α} {inj : α → Row} {policy : String}
    {batch : List α → σ → Except String Unit × σ} {one : α → σ → Except String Unit × σ}
    (hW : W.Logs others inj policy batch one) (kind : String) (pass : PassName) (xs : List α)
    (hinv : ∀ cs, Quiet cs → Inv (o.calls ++ cs)) :
    Lands Inv (fun o' _ => ∃ cs, o'.calls = o.calls ++ cs ∧ Quiet cs ∧
        ∀ taken, cs.foldl Call.takeRows (taken, []) = (taken ++ xs.map inj, [])) o
      (PassM.exec (loadBatch (svc.observed others) kind W pass xs) o) := by
  by_cases hne : xs = []
  · subst hne
    have hnil : Inv o.calls := by simpa using hinv [] Quiet.nil
    rw [exec_loadBatch_nil]
    exact ⟨⟨[], by simp⟩, hnil, fun _ _ => ⟨[], by simp, Quiet.nil, by simp⟩⟩
  · obtain ⟨a, answers, hlen, hmoves, htaken⟩ := exec_loadBatch svc hW kind pass hne o
    have hq := quiet_batchCalls W.table policy (xs.map inj) a answers
    have hlen' : a ≠ .ok () → answers.length = (xs.map inj).length := fun h => by simpa using hlen h
    refine ⟨⟨_, hmoves.1⟩, hmoves.1 ▸ hinv _ hq, fun _ hok => ⟨_, hmoves.1, hq, fun taken => ?_⟩⟩
    exact foldl_takeRows_batchCalls (taken, []) _ _ _ hlen' (htaken.1 hok)

end Ingestor

end SwapArchive
