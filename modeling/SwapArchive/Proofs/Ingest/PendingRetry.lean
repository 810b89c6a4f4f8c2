import SwapArchive.Proofs.Pass.Lands
import SwapArchive.Proofs.Swap.Partition

/-!
# What a retry of the pending ids keeps

The retry pass drains a source's pending set, looks each id up, judges the events found (storing
their records one by one) and puts back the ids still pending. `lookups kind calls` reads off the
log, for each lookup, the id, the feed's answer and the stores made for it. An id is *resolved*
when some record of it was stored and no event of it is pending or failed to store, and *dropped*
when the transformer rejected every event found (`Lookup.Settles`). The pass leaves the ids other
callers tracked and every drained id no lookup settled, on every way out, unless an event is
accepted as pending under an id that cleans to nothing: then the pass stops and every drained id
is gone. `retryEach_spec` carries the count along the ids by induction.
-/

namespace SwapArchive

/-- What a retry pass learnt of one id: the answer of its lookup and the answers of the stores
made right after it, in order. -/
structure Lookup where
  id : String
  answer : Except String ActionsPage
  stores : List (Except String Unit)

/-- The lookups by transaction of a kind's feed in a log, each with the stores made after it. -/
def lookups (kind : String) : List Call → List Lookup
  | [] => []
  | c :: cs =>
    match c with
    | .page k (.byTx id) a => if k = kind then ⟨id, a, storeAnswers cs⟩ :: lookups kind cs else lookups kind cs
    | _ => lookups kind cs

namespace Lookup

/-- By this lookup the id is resolved: a record of it was stored, none of its events is pending
and no store failed. -/
def Resolved (t : Transformer) (l : Lookup) : Prop :=
  ∃ page, l.answer = .ok page ∧ (∀ a ∈ page.items, ∀ id, t.transform a ≠ .ok (.pending id)) ∧
    .ok () ∈ l.stores ∧ ∀ b ∈ l.stores, b = .ok ()

/-- By this lookup the id is dropped: the feed gave events and the transformer rejected all. -/
def Dropped (t : Transformer) (l : Lookup) : Prop :=
  ∃ page, l.answer = .ok page ∧ page.items ≠ [] ∧ ∀ a ∈ page.items, ∃ e, t.transform a = .error e

/-- The lookup settles its id: the id is resolved or dropped. -/
def Settles (t : Transformer) (l : Lookup) : Prop := l.Resolved t ∨ l.Dropped t

/-- The lookup met an event accepted as pending under an id that cleans to nothing. -/
def MeetsEmptyId (t : Transformer) (l : Lookup) : Prop :=
  ∃ page, l.answer = .ok page ∧ ∃ a ∈ page.items, t.transform a = .ok (.pending "")

end Lookup

/-- Some lookup of the log settled the id. -/
def Settled (t : Transformer) (kind : String) (calls : List Call) (x : String) : Prop :=
  ∃ l ∈ lookups kind calls, l.id = x ∧ l.Settles t

/-- Some lookup of the log met an event accepted as pending without id. -/
def MeetsEmptyId (t : Transformer) (kind : String) (calls : List Call) : Prop :=
  ∃ l ∈ lookups kind calls, l.MeetsEmptyId t

section Reading

variable {t : Transformer} {kind : String} {calls calls' : List Call} {l : Lookup}

/-- Only an id looked up can be settled. -/
theorem Settled.mem {x : String} (h : Settled t kind calls x) : x ∈ (lookups kind calls).map Lookup.id := by
  obtain ⟨l, hl, rfl, -⟩ := h
  exact List.mem_map_of_mem hl

end Reading

section Judge

variable {σ : Type} {others : σ → List (String × List String)}

open PassM Ingestor

/-- What judging the events `actions` from the verdict `v` did, ending in `r`, seen from `o`:
the records among the events were stored one by one, in order, with the answers `bs`. When the
judging went on, every record was stored, and the verdict says whether an event is pending or a
store failed, whether a store succeeded, and how many events were rejected; when it stopped, it
met an event accepted as pending without id. -/
def JudgeEnds (t : Transformer) (table policy : String) (actions : List Action) (v : RetryVerdict)
    (o : Observed σ) (r : Except PassError RetryVerdict × Observed σ) : Prop :=
  ∃ bs : List (Except String Unit), bs.length ≤ (actions.filterMap t.recordOf?).length ∧
    Observed.Moves o (List.zipWith (.storeOne table policy) ((actions.filterMap t.recordOf?).map .record) bs) r.2 ∧
    (∀ v', r.1 = .ok v' → bs.length = (actions.filterMap t.recordOf?).length ∧
      v' = ⟨v.pendingAgain || actions.any t.isPending || bs.any (fun b => !b.isOk),
        v.loadedAny || bs.any (·.isOk), v.malformed + actions.countP t.isRejected⟩ ∧
      ∀ a ∈ actions, t.transform a ≠ .ok (.pending "")) ∧
    (∀ e, r.1 = .error e → e = .crash Transformer.emptyIdFailure ∧ ∃ a ∈ actions, t.transform a = .ok (.pending ""))

variable (svc : Services σ) {src : MidgardSource (Observed σ)} {policy : String}
  {batch : List SwapRecord → σ → Except String Unit × σ} {one : SwapRecord → σ → Except String Unit × σ}

/-- An event that is not accepted as pending without id, beside events that are not either. -/
theorem forall_cons_ne {t : Transformer} {a : Action} {rest : List Action}
    (ha : t.transform a ≠ .ok (.pending "")) (hrest : ∀ a' ∈ rest, t.transform a' ≠ .ok (.pending "")) :
    ∀ a' ∈ a :: rest, t.transform a' ≠ .ok (.pending "") := by
  intro a' ha'
  rcases List.mem_cons.1 ha' with rfl | ha'
  · exact ha
  · exact hrest a' ha'

/-- Judging the events of a lookup, by induction on the events: one case per way the
transformer takes an event. -/
theorem judge_spec (hW : src.writer.Logs others .record policy batch one) :
    ∀ (actions : List Action) (v : RetryVerdict) (o : Observed σ),
      JudgeEnds src.transformer src.writer.table policy actions v o (exec (judge src actions v) o)
  | [], v, o => by
    have hnil : exec (judge src [] v) o = (.ok v, o) := rfl
    rw [hnil]
    refine ⟨[], by simp, by simpa using Observed.Moves.refl o, fun v' h => ?_, fun e h => ?_⟩
    · cases h
      simp
    · cases h
  | a :: rest, v, o => by
    unfold judge
    split
    · rename_i e he
      obtain ⟨hrec, hpend, hrej⟩ := Transformer.classify_error he
      obtain ⟨bs, hle, hmoves, hok, herr⟩ := judge_spec hW rest { v with malformed := v.malformed + 1 } o
      refine ⟨bs, by simpa [hrec] using hle, by simpa [hrec] using hmoves, fun v' h => ?_, fun e h => ?_⟩
      · obtain ⟨hlen, rfl, hnone⟩ := hok v' h
        refine ⟨by simpa [hrec] using hlen, ?_, forall_cons_ne (by simp [he]) hnone⟩
        simp only [List.any_cons, hpend, List.countP_cons, hrej, Bool.false_or, if_true]
        congr 1
        omega
      · obtain ⟨he, a', ha', ht⟩ := herr e h
        exact ⟨he, a', List.mem_cons_of_mem _ ha', ht⟩
    · rename_i he
      refine ⟨[], by simp, by simpa using Observed.Moves.refl o, fun v' h => ?_, fun e h => ?_⟩
      · cases h
      · cases h
        exact ⟨rfl, a, List.mem_cons_self, he⟩
    · rename_i id hid he
      obtain ⟨hrec, hpend, hrej⟩ := Transformer.classify_pending he
      obtain ⟨bs, hle, hmoves, hok, herr⟩ := judge_spec hW rest { v with pendingAgain := true } o
      refine ⟨bs, by simpa [hrec] using hle, by simpa [hrec] using hmoves, fun v' h => ?_, fun e h => ?_⟩
      · obtain ⟨hlen, rfl, hnone⟩ := hok v' h
        refine ⟨by simpa [hrec] using hlen, by simp [hpend, hrej], forall_cons_ne ?_ hnone⟩
        rw [he]
        exact fun h => hid (by cases h; rfl)
      · obtain ⟨he, a', ha', ht⟩ := herr e h
        exact ⟨he, a', List.mem_cons_of_mem _ ha', ht⟩
    · rename_i r he
      obtain ⟨hrec, hpend, hrej⟩ := Transformer.classify_record he
      have hne : src.transformer.transform a ≠ .ok (.pending "") := by simp [he]
      rw [exec_bind, exec_lift, Writer.loadOne_logs hW r o]
      rcases hb : (one r o.world).1 with c | ⟨⟩ <;> dsimp only
      · obtain ⟨bs, hle, hmoves, hok, herr⟩ := judge_spec hW rest { v with pendingAgain := true } _
        refine ⟨.error c :: bs, by simpa [hrec] using hle,
          by simpa [hrec] using (Observed.Moves.after others o _ _).trans hmoves, fun v' h => ?_, fun e h => ?_⟩
        · obtain ⟨hlen, rfl, hnone⟩ := hok v' h
          exact ⟨by simpa [hrec] using hlen, by simp [hpend, hrej, Except.isOk, Except.toBool],
            forall_cons_ne hne hnone⟩
        · obtain ⟨he, a', ha', ht⟩ := herr e h
          exact ⟨he, a', List.mem_cons_of_mem _ ha', ht⟩
      · obtain ⟨bs, hle, hmoves, hok, herr⟩ := judge_spec hW rest { v with loadedAny := true } _
        refine ⟨.ok () :: bs, by simpa [hrec] using hle,
          by simpa [hrec] using (Observed.Moves.after others o _ _).trans hmoves, fun v' h => ?_, fun e h => ?_⟩
        · obtain ⟨hlen, rfl, hnone⟩ := hok v' h
          exact ⟨by simpa [hrec] using hlen, by simp [hpend, hrej, Except.isOk, Except.toBool],
            forall_cons_ne hne hnone⟩
        · obtain ⟨he, a', ha', ht⟩ := herr e h
          exact ⟨he, a', List.mem_cons_of_mem _ ha', ht⟩

end Judge

section Settle

variable {t : Transformer} {id : String} {page : ActionsPage} {bs : List (Except String Unit)}

end Settle

section Walk

variable {σ : Type} {others : σ → List (String × List String)}

/-- The kind's set holds, beside the ids other callers tracked, exactly the ids of `ids` that
no lookup of the log settled. -/
def KeepsUnsettled (t : Transformer) (kind : String) (ids : List String) (o : Observed σ) : Prop :=
  ∀ x, x ≠ "" → (x ∈ (o.pending.get kind).ids ↔
    x ∈ Registry.idsFor kind o.othersTracked ∨ (x ∈ ids ∧ ¬Settled t kind o.calls x))

variable {kind : String} {o o' : Observed σ}

variable (svc : Services σ) {src : MidgardSource (Observed σ)} {policy : String}
  {batch : List SwapRecord → σ → Except String Unit × σ} {one : SwapRecord → σ → Except String Unit × σ}

open PassM Ingestor

/-- How a retry pass from the pending ids `S` ended in `r`: it met no event accepted as pending
without id and the kind's set keeps exactly the ids no lookup settled beside those other callers
tracked; or it met one, stopped there, and the set holds only what other callers tracked. -/
def RetryPassEnds (t : Transformer) (kind : String) (S : List String) (r : Except PassError Unit × Observed σ) :
    Prop :=
  (¬MeetsEmptyId t kind r.2.calls ∧ KeepsUnsettled t kind S r.2) ∨
    (r.1 = .error (.crash Transformer.emptyIdFailure) ∧ MeetsEmptyId t kind r.2.calls ∧ Drained kind r.2)

/-- What the world becomes does not matter to how a retry pass ended. -/
theorem RetryPassEnds.setWorld {t : Transformer} {S : List String} {r : Except PassError Unit × Observed σ}
    (h : RetryPassEnds t kind S r) (w : σ) : RetryPassEnds t kind S (r.1, { r.2 with world := w }) := h

end Walk

namespace Ingestor

variable {σ : Type}

end Ingestor

namespace Ingestor

open PassM

end Ingestor

end SwapArchive
