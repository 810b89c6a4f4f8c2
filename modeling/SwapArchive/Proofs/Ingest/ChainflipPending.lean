import SwapArchive.Proofs.Pass.Lands

/-!
# What the Chainflip sync leaves pending

The Chainflip sync drains the Chainflip pending set, walks the explorer's pages and puts back the
ids still *outstanding*. The log of calls gives the pages the feed brought, each with whether the
pass went through it (`pageRuns`). `StillOut x` says how one page moves the id `x`: a node that
ends the swap unfinished takes it out; on a page gone through, a completed swap takes it out and a
node in flight brings it back. `syncPage_spec` and `syncWalk_spec` carry this along the walk.
The pending set the pass leaves holds, beside the ids other callers tracked, exactly the ids
outstanding after the logged pages, from the drained ones; an id is gone only when a node ended
it or it was completed on a page the loader took, whether or not its own row was stored.
-/

namespace SwapArchive

namespace SwapNode

/-- The swap a node becomes, if it becomes one. -/
def swapOf? (n : SwapNode) : Option ChainflipSwap :=
  match n.transform with
  | .ok (.swap s) => some s
  | _ => none

/-- The id of a node still in flight. -/
def inFlightOf? (n : SwapNode) : Option String :=
  match n.transform with
  | .ok (.pending id) => some id
  | _ => none

/-- The id of a node that ended unfinished. -/
def endedOf? (n : SwapNode) : Option String :=
  match n.transform with
  | .ok (.final id) => some id
  | _ => none

/-- The node cannot be read. -/
def isRejected (n : SwapNode) : Bool :=
  match n.transform with
  | .error _ => true
  | _ => false

end SwapNode

namespace SwapRequests

/-- A node of the page ends the swap `x` unfinished: failed, refunded or aborted. -/
def Ends (p : SwapRequests) (x : String) : Prop := ∃ n ∈ p.nodes, n.transform = .ok (.final x)

/-- A node of the page is the swap `x`, completed. -/
def Completes (p : SwapRequests) (x : String) : Prop :=
  ∃ n ∈ p.nodes, ∃ s, n.transform = .ok (.swap s) ∧ s.swapId = x

/-- A node of the page is the swap `x`, still in flight. -/
def InFlight (p : SwapRequests) (x : String) : Prop := ∃ n ∈ p.nodes, n.transform = .ok (.pending x)

end SwapRequests

/-- Whether `x` is outstanding after a page, from whether it was before and whether the pass went
through the page. -/
def StillOut (x : String) (was : Prop) (run : SwapRequests × Bool) : Prop :=
  (was ∧ ¬run.1.Ends x ∧ (run.2 = true → ¬run.1.Completes x)) ∨ (run.2 = true ∧ run.1.InFlight x)

/-- Whether the loader took the swaps whose stores open the log: the batch was stored whole, or
some row of it on its own after the batch was refused. A log that opens with no store had
nothing to store. -/
def headTaken : List Call → Bool
  | .storeBatch _ _ _ (.ok ()) :: _ => true
  | .storeBatch _ _ _ (.error _) :: cs => (storeAnswers cs).any (·.isOk)
  | _ => true

/-- Whether the pass went through the page whose calls follow: the store said which of its swaps
it held, and the loader took them. -/
def pageDone : List Call → Bool
  | .existing _ _ (.ok _) :: cs => headTaken cs
  | _ => false

/-- The pages with nodes the Chainflip feed brought, in order, each with whether the pass went
through it. -/
def pageRuns : List Call → List (SwapRequests × Bool)
  | [] => []
  | c :: cs =>
    match c with
    | .swapPage _ _ (.ok page) => if page.nodes.isEmpty then pageRuns cs else (page, pageDone cs) :: pageRuns cs
    | _ => pageRuns cs

/-- The log is empty or opens with a page call of the Chainflip feed: where one page's calls end
and the next page's begin. -/
def PageHeaded (cs : List Call) : Prop :=
  cs = [] ∨ ∃ size offset answer rest, cs = .swapPage size offset answer :: rest

section Reading

variable {ys : List Call}

theorem PageHeaded.storeAnswers (h : PageHeaded ys) : storeAnswers ys = [] := by
  rcases h with rfl | ⟨_, _, _, _, rfl⟩ <;> rfl

theorem PageHeaded.headTaken (h : PageHeaded ys) : headTaken ys = true := by
  rcases h with rfl | ⟨_, _, _, _, rfl⟩ <;> rfl

theorem PageHeaded.pageDone (h : PageHeaded ys) : pageDone ys = false := by
  rcases h with rfl | ⟨_, _, _, _, rfl⟩ <;> rfl

/-- The next page's calls do not change whether the loader took the swaps before them. -/
theorem headTaken_append (h : PageHeaded ys) : ∀ cs : List Call, headTaken (cs ++ ys) = headTaken cs
  | [] => h.headTaken
  | c :: cs => by
    cases c with
    | storeBatch table policy rows answer =>
      rcases answer with m | ⟨⟩
      · simp only [List.cons_append, headTaken, storeAnswers_append h.storeAnswers cs]
      · rfl
    | _ => rfl

theorem pageDone_append (h : PageHeaded ys) : ∀ cs : List Call, pageDone (cs ++ ys) = pageDone cs
  | [] => h.pageDone
  | c :: cs => by
    cases c with
    | existing table ids answer =>
      rcases answer with m | found
      · rfl
      · simp only [List.cons_append, pageDone, headTaken_append h cs]
    | _ => rfl

/-- A log read in two parts, the second starting at a page call. -/
theorem pageRuns_append (h : PageHeaded ys) : ∀ xs : List Call, pageRuns (xs ++ ys) = pageRuns xs ++ pageRuns ys
  | [] => rfl
  | c :: cs => by
    cases c with
    | swapPage size offset answer =>
      rcases answer with m | page
      · simp only [List.cons_append, pageRuns, pageRuns_append h cs]
      · simp only [List.cons_append, pageRuns, pageRuns_append h cs, pageDone_append h cs]
        split <;> rfl
    | _ => simp only [List.cons_append, pageRuns, pageRuns_append h cs]

/-- A log with no page call reads no page. -/
theorem pageRuns_eq_nil {cs : List Call} (h : ∀ c ∈ cs, ∀ size offset answer, c ≠ .swapPage size offset answer) :
    pageRuns cs = [] := by
  induction cs with
  | nil => rfl
  | cons c cs ih =>
    have hc := h c List.mem_cons_self
    have hrest := ih fun d hd => h d (List.mem_cons_of_mem _ hd)
    cases c with
    | swapPage size offset answer => exact absurd rfl (hc size offset answer)
    | _ => exact hrest

/-- Storing a batch reads no page. -/
theorem pageRuns_batchCalls (table policy : String) (rows : List Row) (a : Except String Unit)
    (answers : List (Except String Unit)) : pageRuns (batchCalls table policy rows a answers) = [] :=
  pageRuns_eq_nil fun _ hc size offset answer heq => by
    rcases mem_batchCalls hc with ⟨b, rfl⟩ | ⟨r, b, rfl⟩ <;> cases heq

/-- Storing a batch through a loader opens the log with whether the loader took it. -/
theorem headTaken_batchCalls (table policy : String) {rows : List Row} {a : Except String Unit}
    {answers : List (Except String Unit)} (hlen : a ≠ .ok () → answers.length = rows.length) :
    headTaken (batchCalls table policy rows a answers) = true ↔ Taken a answers := by
  rcases a with m | ⟨⟩
  · have hle : answers.length ≤ rows.length := (hlen (by simp)).le
    simp only [batchCalls, headTaken, storeAnswers_storeOne table policy rows answers hle, List.any_eq_true,
      Writer.isOk_iff, Taken, reduceCtorEq, false_or]
    constructor
    · rintro ⟨b, hb, hok⟩
      exact hok ▸ hb
    · intro h
      exact ⟨_, h, rfl⟩
  · simp [batchCalls, headTaken, Taken]

end Reading

section Outstanding

variable {x : String}

/-- Pages that neither end nor complete `x` leave it outstanding exactly when it was, or when
some page the pass went through showed it in flight. By induction on the pages. -/
theorem foldl_stillOut_quiet : ∀ {runs : List (SwapRequests × Bool)} {was : Prop},
    (∀ run ∈ runs, ¬run.1.Ends x ∧ (run.2 = true → ¬run.1.Completes x)) →
      (runs.foldl (StillOut x) was ↔ was ∨ ∃ run ∈ runs, run.2 = true ∧ run.1.InFlight x)
  | [], _, _ => by simp
  | run :: runs, was, h => by
    rw [List.foldl_cons, foldl_stillOut_quiet fun r hr => h r (List.mem_cons_of_mem _ hr)]
    obtain ⟨hE, hC⟩ := h run List.mem_cons_self
    simp only [StillOut, List.mem_cons, or_and_right, exists_or, exists_eq_left]
    constructor
    · rintro ((⟨hw, -, -⟩ | hin) | hrest)
      · exact .inl hw
      · exact .inr (.inl hin)
      · exact .inr (.inr hrest)
    · rintro (hw | hin | hrest)
      · exact .inl (.inl ⟨hw, hE, hC⟩)
      · exact .inl (.inr hin)
      · exact .inr hrest

/-- Once outstanding, `x` stays so through pages that neither end nor complete it. -/
theorem foldl_stillOut_of_was {runs : List (SwapRequests × Bool)} {was : Prop}
    (h : ∀ run ∈ runs, ¬run.1.Ends x ∧ (run.2 = true → ¬run.1.Completes x)) (hw : was) :
    runs.foldl (StillOut x) was :=
  (foldl_stillOut_quiet h).2 (.inl hw)

/-- A page the pass went through that shows `x` in flight makes it outstanding, and it stays so
through later pages that neither end nor complete it. -/
theorem foldl_stillOut_of_inFlight {pre post : List (SwapRequests × Bool)} {page : SwapRequests} {was : Prop}
    (hin : page.InFlight x) (h : ∀ run ∈ post, ¬run.1.Ends x ∧ (run.2 = true → ¬run.1.Completes x)) :
    (pre ++ (page, true) :: post).foldl (StillOut x) was := by
  rw [List.foldl_append, List.foldl_cons]
  exact foldl_stillOut_of_was h (.inr ⟨rfl, hin⟩)

/-- An id that was outstanding, or shown in flight on a page the pass went through, and is no
longer: some page ended it, or completed it and the pass went through that page. -/
theorem gone_of_not_foldl_stillOut {runs : List (SwapRequests × Bool)} {was : Prop}
    (hgone : ¬runs.foldl (StillOut x) was) (hin : was ∨ ∃ run ∈ runs, run.2 = true ∧ run.1.InFlight x) :
    ∃ run ∈ runs, run.1.Ends x ∨ (run.2 = true ∧ run.1.Completes x) := by
  by_contra hnone
  have hquiet : ∀ run ∈ runs, ¬run.1.Ends x ∧ (run.2 = true → ¬run.1.Completes x) := fun run hr =>
    ⟨fun hE => hnone ⟨run, hr, .inl hE⟩, fun hd hC => hnone ⟨run, hr, .inr ⟨hd, hC⟩⟩⟩
  exact hgone ((foldl_stillOut_quiet hquiet).2 hin)

end Outstanding

namespace Ingestor

/-- Sorting nodes splits them by what they become, keeping their order. -/
theorem sortNodes_eq : ∀ (nodes : List SwapNode) (s : NodeSorting), sortNodes nodes s =
    ⟨s.swaps ++ nodes.filterMap SwapNode.swapOf?, s.inFlight ++ nodes.filterMap SwapNode.inFlightOf?,
      s.terminal ++ nodes.filterMap SwapNode.endedOf?, s.skipped + nodes.countP SwapNode.isRejected⟩
  | [], s => by
    simp only [sortNodes, List.filterMap_nil, List.append_nil, List.countP_nil, Nat.add_zero]
  | n :: rest, s => by
    unfold sortNodes
    rcases h : n.transform with e | (w | id | id) <;>
      simp [h, sortNodes_eq rest, SwapNode.swapOf?, SwapNode.inFlightOf?, SwapNode.endedOf?, SwapNode.isRejected]
    omega

theorem mem_endedOf {nodes : List SwapNode} {x : String} :
    x ∈ nodes.filterMap SwapNode.endedOf? ↔ ∃ n ∈ nodes, n.transform = .ok (.final x) := by
  simp only [List.mem_filterMap, SwapNode.endedOf?]
  refine exists_congr fun n => and_congr_right fun _ => ?_
  split <;> simp_all

theorem mem_inFlightOf {nodes : List SwapNode} {x : String} :
    x ∈ nodes.filterMap SwapNode.inFlightOf? ↔ ∃ n ∈ nodes, n.transform = .ok (.pending x) := by
  simp only [List.mem_filterMap, SwapNode.inFlightOf?]
  refine exists_congr fun n => and_congr_right fun _ => ?_
  split <;> simp_all

theorem mem_swapIds {nodes : List SwapNode} {x : String} :
    x ∈ (nodes.filterMap SwapNode.swapOf?).map ChainflipSwap.swapId ↔
      ∃ n ∈ nodes, ∃ s, n.transform = .ok (.swap s) ∧ s.swapId = x := by
  simp only [List.mem_map, List.mem_filterMap, SwapNode.swapOf?]
  constructor
  · rintro ⟨s, ⟨n, hn, hs⟩, rfl⟩
    refine ⟨n, hn, s, ?_, rfl⟩
    split at hs <;> simp_all
  · rintro ⟨n, hn, s, hs, rfl⟩
    exact ⟨s, ⟨n, hn, by simp [hs]⟩, rfl⟩

theorem mem_removeIds {out ids : List String} {x : String} : x ∈ removeIds out ids ↔ x ∈ out ∧ x ∉ ids := by
  simp [removeIds]

theorem mem_addIds {ids : List String} {x : String} : ∀ {out : List String}, x ∈ addIds out ids ↔ x ∈ out ∨ x ∈ ids := by
  induction ids with
  | nil => simp [addIds]
  | cons id ids ih =>
    intro out
    simp only [addIds, List.foldl_cons] at ih ⊢
    rw [ih]
    split <;> grind

/-- One page moves the outstanding ids as `StillOut` says: the page's ended ids leave, and if the
pass went through the page its swaps leave and its ids in flight join. -/
theorem mem_afterPage (page : SwapRequests) (done : Bool) (out : List String) (x : String) :
    x ∈ (if done then
        addIds (removeIds (removeIds out (sortNodes page.nodes ⟨[], [], [], 0⟩).terminal)
          ((sortNodes page.nodes ⟨[], [], [], 0⟩).swaps.map ChainflipSwap.swapId))
          (sortNodes page.nodes ⟨[], [], [], 0⟩).inFlight
      else removeIds out (sortNodes page.nodes ⟨[], [], [], 0⟩).terminal) ↔
      StillOut x (x ∈ out) (page, done) := by
  simp only [sortNodes_eq, List.nil_append, StillOut, SwapRequests.Ends, SwapRequests.Completes,
    SwapRequests.InFlight]
  cases done
  · simp only [Bool.false_eq_true, if_false, mem_removeIds, mem_endedOf, false_implies, and_true, false_and,
      or_false]
  · simp only [if_true, mem_addIds, mem_removeIds, mem_endedOf, mem_inFlightOf, mem_swapIds, true_implies, true_and,
      and_assoc]

/-- The outstanding ids a page of the walk ends with. -/
def SyncStep.outstanding : SyncStep → List String
  | .stop out => out
  | .more out _ => out
  | .failed out _ => out

section Walk

variable {σ : Type} (others : σ → List (String × List String)) (svc : Services σ)

open PassM

theorem syncPage_spec (target : Source) (size offset : Nat) (out : List String) (o : Observed σ) :
    ∃ answer rest, Observed.Moves o (.swapPage size offset answer :: rest)
        ((syncPage (svc.observed others) target size offset out).run o).2 ∧
      ∀ x, x ∈ ((syncPage (svc.observed others) target size offset out).run o).1.outstanding ↔
        (pageRuns (.swapPage size offset answer :: rest)).foldl (StillOut x) (x ∈ out) := by
  unfold syncPage
  rw [stateM_run_bind, stateM_run_modifyGet, Services.observed_fetchSwaps]
  rcases hf : svc.fetchSwaps size offset o.world with ⟨answer, w₁⟩
  have hm₁ := Observed.Moves.after others o w₁ (.swapPage size offset answer)
  dsimp only
  rcases answer with m | page
  · refine ⟨.error m, [], hm₁, fun x => ?_⟩
    exact Iff.rfl
  dsimp only
  by_cases hempty : page.nodes.isEmpty = true
  · rw [if_pos hempty]
    refine ⟨.ok page, [], hm₁, fun x => ?_⟩
    simp only [pageRuns, hempty, if_true, List.foldl_nil]
    exact Iff.rfl
  rw [if_neg hempty, stateM_run_bind, stateM_run_modify]
  dsimp only
  rw [stateM_run_ite_modify]
  generalize hO : (if (sortNodes page.nodes ⟨[], [], [], 0⟩).skipped > 0 then
      (svc.observed others).report
        (.recordsSkipped Source.chainflip .chainflipSync (sortNodes page.nodes ⟨[], [], [], 0⟩).skipped)
        ((svc.observed others).report (.pageFetched Source.chainflip .chainflipSync)
          (Observed.after others o w₁ (.swapPage size offset (.ok page))))
    else (svc.observed others).report (.pageFetched Source.chainflip .chainflipSync)
      (Observed.after others o w₁ (.swapPage size offset (.ok page)))) = o₂
  have hm₂ : Observed.Moves o [.swapPage size offset (.ok page)] o₂ := by
    rw [← hO]
    split
    · exact (hm₁.setWorld _).setWorld _
    · exact hm₁.setWorld _
  clear hO
  rw [stateM_run_bind, stateM_run_modifyGet, Services.observed_existingSwapIds]
  rcases hx : svc.existingSwapIds target.table ((sortNodes page.nodes ⟨[], [], [], 0⟩).swaps.map ChainflipSwap.swapId)
    o₂.world with ⟨found, w₃⟩
  have hm₃ := hm₂.trans (Observed.Moves.after others o₂ w₃
    (.existing target.table ((sortNodes page.nodes ⟨[], [], [], 0⟩).swaps.map ChainflipSwap.swapId) found))
  dsimp only
  rcases found with c | existing
  · refine ⟨.ok page, [.existing target.table _ (.error c)], hm₃, fun x => ?_⟩
    simp only [pageRuns, hempty, Bool.false_eq_true, if_false, pageDone, List.foldl_cons, List.foldl_nil]
    exact mem_afterPage page false out x
  dsimp only
  rw [stateM_run_bind, run_run]
  by_cases hsw : (sortNodes page.nodes ⟨[], [], [], 0⟩).swaps = []
  · rw [exec_loadBatch_of_nil _ _ _ _ hsw]
    dsimp only
    have hrun : ∀ x, (pageRuns [.swapPage size offset (.ok page), .existing target.table
        ((sortNodes page.nodes ⟨[], [], [], 0⟩).swaps.map ChainflipSwap.swapId) (.ok existing)]).foldl
          (StillOut x) (x ∈ out) ↔ StillOut x (x ∈ out) (page, true) := by
      intro x
      simp only [pageRuns, hempty, Bool.false_eq_true, if_false, pageDone, headTaken, List.foldl_cons, List.foldl_nil]
    split <;> exact ⟨.ok page, [.existing target.table _ (.ok existing)], hm₃, fun x =>
      (mem_afterPage page true out x).trans (hrun x).symm⟩
  obtain ⟨a, answers, hlen, hmoves, htaken⟩ := exec_loadBatch svc (swapWriter_logs svc target) Source.chainflip
    .chainflipSync hsw (Observed.after others o₂ w₃
      (.existing target.table ((sortNodes page.nodes ⟨[], [], [], 0⟩).swaps.map ChainflipSwap.swapId) (.ok existing)))
  have hm₄ := hm₃.trans hmoves
  have hlen' : a ≠ .ok () → answers.length = ((sortNodes page.nodes ⟨[], [], [], 0⟩).swaps.map Row.swap).length :=
    fun h => by simpa using hlen h
  have hdone := headTaken_batchCalls target.table target.conflict hlen'
  rcases hr : exec (loadBatch (svc.observed others) Source.chainflip (swapWriter (svc.observed others) target)
      .chainflipSync (sortNodes page.nodes ⟨[], [], [], 0⟩).swaps) (Observed.after others o₂ w₃
        (.existing target.table ((sortNodes page.nodes ⟨[], [], [], 0⟩).swaps.map ChainflipSwap.swapId) (.ok existing)))
    with ⟨_ | ⟨⟩, o₄⟩ <;> rw [hr] at hm₄ htaken <;> dsimp only
  · have hnot : headTaken (batchCalls target.table target.conflict
        ((sortNodes page.nodes ⟨[], [], [], 0⟩).swaps.map Row.swap) a answers) = false :=
      Bool.eq_false_iff.2 fun h => by simpa using htaken.2 (hdone.1 h)
    refine ⟨.ok page, .existing target.table _ (.ok existing) :: batchCalls target.table target.conflict _ a answers,
      hm₄, fun x => ?_⟩
    simp only [pageRuns, hempty, Bool.false_eq_true, if_false, pageDone, hnot, pageRuns_batchCalls,
      List.foldl_cons, List.foldl_nil]
    exact mem_afterPage page false out x
  · have hyes : headTaken (batchCalls target.table target.conflict
        ((sortNodes page.nodes ⟨[], [], [], 0⟩).swaps.map Row.swap) a answers) = true := hdone.2 (htaken.1 rfl)
    have hrun : ∀ x, (pageRuns (.swapPage size offset (.ok page) :: .existing target.table
        ((sortNodes page.nodes ⟨[], [], [], 0⟩).swaps.map ChainflipSwap.swapId) (.ok existing) ::
          batchCalls target.table target.conflict
            ((sortNodes page.nodes ⟨[], [], [], 0⟩).swaps.map Row.swap) a answers)).foldl
          (StillOut x) (x ∈ out) ↔ StillOut x (x ∈ out) (page, true) := by
      intro x
      simp only [pageRuns, hempty, Bool.false_eq_true, if_false, pageDone, hyes, pageRuns_batchCalls,
        List.foldl_cons, List.foldl_nil]
    split <;> exact ⟨.ok page, .existing target.table _ (.ok existing) ::
      batchCalls target.table target.conflict _ a answers, hm₄, fun x => (mem_afterPage page true out x).trans (hrun x).symm⟩

/-- The walk, by induction on the pages it may still take: each page moves the outstanding ids as
`syncPage_spec` says, and the log reads the pages in the order they were taken. -/
theorem syncWalk_spec (target : Source) (size : Nat) : ∀ (left offset : Nat) (out : List String) (o : Observed σ),
    ∃ seg, PageHeaded seg ∧ Observed.Moves o seg ((syncWalk (svc.observed others) target size left offset out).run o).2 ∧
      ∀ x, x ∈ ((syncWalk (svc.observed others) target size left offset out).run o).1.1 ↔
        (pageRuns seg).foldl (StillOut x) (x ∈ out)
  | 0, _, out, o => ⟨[], .inl rfl, Observed.Moves.refl o, fun _ => Iff.rfl⟩
  | left + 1, offset, out, o => by
    obtain ⟨answer, rest, hmoves, hout⟩ := syncPage_spec others svc target size offset out o
    rw [syncWalk, stateM_run_bind]
    generalize (syncPage (svc.observed others) target size offset out).run o = r at hmoves hout
    obtain ⟨step, o₁⟩ := r
    cases step with
    | stop out' => exact ⟨_, .inr ⟨_, _, _, _, rfl⟩, hmoves, hout⟩
    | failed out' e => exact ⟨_, .inr ⟨_, _, _, _, rfl⟩, hmoves, hout⟩
    | more out' next =>
      obtain ⟨seg, hhead, hmoves', hout'⟩ := syncWalk_spec target size left next out' o₁
      refine ⟨(.swapPage size offset answer :: rest) ++ seg, .inr ⟨_, _, _, _, rfl⟩, hmoves.trans hmoves', fun x => ?_⟩
      rw [hout' x, pageRuns_append hhead, List.foldl_append]
      rw [show (x ∈ out') = _ from propext (hout x)]

/-- From an observer that has seen nothing yet, the Chainflip pending set after the sync holds,
beside the ids other callers tracked, exactly the ids outstanding after the pages of the log,
starting from the ids it held. Whether the sync runs, is locked out or has no source, and however
it ends. -/
theorem syncChainflip_pending (g : Ingestor) (o : Observed σ) (hcalls : o.calls = [])
    (hothers : o.othersTracked = []) (x : String) (hx : x ≠ "") :
    x ∈ ((exec (syncChainflip (svc.observed others) g) o).2.pending.get Source.chainflip).ids ↔
      x ∈ Registry.idsFor Source.chainflip (exec (syncChainflip (svc.observed others) g) o).2.othersTracked ∨
        (pageRuns (exec (syncChainflip (svc.observed others) g) o).2.calls).foldl (StillOut x)
          (x ∈ (o.pending.get Source.chainflip).ids) := by
  unfold syncChainflip
  split
  · rename_i target _ _
    dsimp only
    rcases hlock : (svc.observed others).tryLock (lockKey Source.chainflip .chainflipSync) o with ⟨_ | _, o₁⟩
    · have ho₁ : o₁ = { o with world := (svc.tryLock (lockKey Source.chainflip .chainflipSync) o.world).2 } :=
        (Prod.ext_iff.1 hlock).2.symm
      rw [exclusive_skip _ hlock, ho₁]
      simp [hcalls, hothers, pageRuns]
    have ho₁ : o₁ = { o with world := (svc.tryLock (lockKey Source.chainflip .chainflipSync) o.world).2 } :=
      (Prod.ext_iff.1 hlock).2.symm
    rw [exclusive_taken _ hlock, Services.observed_unlock, ho₁]
    rw [exec_bind, exec_perform, Services.observed_drainPending]
    dsimp only
    rw [exec_bind, exec_lift]
    set o₁ : Observed σ := ⟨(svc.tryLock (lockKey Source.chainflip .chainflipSync) o.world).2,
      (o.pending.drain Source.chainflip).2, o.calls, o.othersTracked⟩ with ho₁'
    obtain ⟨seg, -, hmoves, hout⟩ := syncWalk_spec others svc target g.swapPageSize g.maxPages 0
      (o.pending.get Source.chainflip).ids o₁
    have hD : Drained Source.chainflip o₁ := fun y => by simp [o₁, hothers]
    generalize (syncWalk (svc.observed others) target g.swapPageSize g.maxPages 0
      (o.pending.get Source.chainflip).ids).run o₁ = r at hmoves hout
    obtain ⟨⟨out, res⟩, o₂⟩ := r
    have hD₂ := hD.moves hmoves
    dsimp only
    rw [exec_bind, exec_modify]
    dsimp only
    rw [exec_bind, exec_reportPending]
    dsimp only
    have hcalls₂ : o₂.calls = seg := by rw [hmoves.1, ho₁', hcalls, List.nil_append]
    rcases res with e | ⟨⟩ <;> dsimp only <;>
      simp only [exec_throw, exec_pure, Services.observed_trackPending, Registry.get_touch, Registry.get_track_self,
        PendingSet.mem_track, hD₂ x, hout x, hcalls₂, hx, and_true, ne_eq, not_false_eq_true]
  · simp [hcalls, hothers, pageRuns]

end Walk

variable {σ : Type}

/-- What the Chainflip sync leaves pending, over any world, whatever the feed and the store answer
and whatever other callers track meanwhile; `held` is the Chainflip set after the pass, `D` the
set before it and `runs` the pages of the log, each with whether the pass went through it.
The ids other callers tracked are held. A drained id is held unless some page ended it or a page
the pass went through completed it. An id shown in flight on a page the pass went through is held
unless a later page ended or completed it. And an id that was drained or so shown and is not held
was ended by some page, or completed on a page the pass went through: on such a page the loader
took the swaps, which means that some row was stored, not necessarily the id's own. -/
theorem syncChainflip_keeps_outstanding (svc : Services σ) (others : σ → List (String × List String))
    (g : Ingestor) (w : σ) (reg : Registry) :
    let r := PassM.exec (syncChainflip (svc.observed others) g) ⟨w, reg, [], []⟩
    let runs := pageRuns r.2.calls
    let D := (reg.get Source.chainflip).ids
    let held := (r.2.pending.get Source.chainflip).ids
    (∀ x ∈ Registry.idsFor Source.chainflip r.2.othersTracked, x ≠ "" → x ∈ held) ∧
    (∀ x ∈ D, x ≠ "" → (∀ run ∈ runs, ¬run.1.Ends x ∧ (run.2 = true → ¬run.1.Completes x)) → x ∈ held) ∧
    (∀ x pre page post, x ≠ "" → runs = pre ++ (page, true) :: post → page.InFlight x →
      (∀ run ∈ post, ¬run.1.Ends x ∧ (run.2 = true → ¬run.1.Completes x)) → x ∈ held) ∧
    (∀ x, x ≠ "" → x ∉ held → (x ∈ D ∨ ∃ run ∈ runs, run.2 = true ∧ run.1.InFlight x) →
      ∃ run ∈ runs, run.1.Ends x ∨ (run.2 = true ∧ run.1.Completes x)) := by
  intro r runs D held
  have key := syncChainflip_pending others svc g ⟨w, reg, [], []⟩ rfl rfl
  refine ⟨fun x hx hne => (key x hne).2 (.inl hx), fun x hx hne hquiet => ?_, ?_, ?_⟩
  · exact (key x hne).2 (.inr (foldl_stillOut_of_was hquiet hx))
  · rintro x pre page post hne hruns hin hquiet
    refine (key x hne).2 (.inr ?_)
    rw [show pageRuns r.2.calls = pre ++ (page, true) :: post from hruns]
    exact foldl_stillOut_of_inFlight hin hquiet
  · intro x hne hgone hin
    exact gone_of_not_foldl_stillOut (fun h => hgone ((key x hne).2 (.inr h))) hin

end Ingestor

/-- The call stored the row of the swap `x` and the store took it. -/
def Call.writesSwap (x : String) : Call → Bool
  | .storeBatch _ _ rows (.ok ()) => rows.any fun
    | .swap s => s.swapId == x
    | .record _ => false
  | .storeOne _ _ (.swap s) (.ok ()) => s.swapId == x
  | _ => false

/-- The services of a world whose Chainflip feed answers with `page` at offset 0 and with no node
after it, whose store holds no swap, refuses every batch and the row of every swap whose id is in
`refused`, and where nothing else happens. -/
def Services.swapFeed (page : SwapRequests) (refused : List String) : Services Unit where
  fetchPage _ _ w := (.ok ⟨some [], "", ""⟩, w)
  fetchSwaps _ offset w := (.ok (if offset = 0 then page else ⟨page.pageInfo, [], page.totalCount⟩), w)
  fetchPrice _ _ w := (.error "", w)
  latestTimestamp _ w := (.ok none, w)
  storeRecords _ _ _ w := (.ok (), w)
  storeRecord _ _ _ w := (.ok (), w)
  storeSwaps _ _ _ w := (.error "batch rejected", w)
  storeSwap _ _ s w := (if s.swapId ∈ refused then .error ("forced failure for " ++ s.swapId) else .ok (), w)
  existingSwapIds _ _ w := (.ok [], w)
  upsertClosingPrice _ w := (.ok (), w)
  readCursor _ _ w := (.ok "", w)
  writeCursor _ _ _ w := (.ok (), w)
  trackPending _ _ w := w
  drainPending _ w := ([], w)
  pendingCount _ w := (0, w)
  report _ w := w
  tryLock _ w := (true, w)
  unlock _ w := w
  now _ := ⟨0, 0⟩
  cancelled _ := false

/-- A node of a swap from bitcoin to ether, completed. -/
def SwapNode.completed (id : String) : SwapNode where
  id := 1
  swapRequestNativeId := id
  sourceAsset := "BTC"
  destAsset := "ETH"
  ingressAmount := some "1.5"
  ingressValueUsd := some "60000"
  egressAmount := some "20"
  egressValueUsd := some "59000"
  destinationAddress := "0xdest"
  refundAddress := some "bc1qrefund"
  status := "COMPLETED"
  isInProgress := false
  startedBlockTimestamp := some "2024-01-01T00:00:00Z"
  completedBlockTimestamp := some "2024-01-01T00:05:00Z"

namespace Ingestor

/-- A pending swap is dropped though its row was never stored: the one page completes the pending
swaps `10` and `9`, the store refuses the batch and the row of `9` but takes the row of `10`, so
the loader took the page's swaps and both ids leave the pending set. -/
theorem syncChainflip_drops_unwritten_swap :
    let cf : Source := { kind := "chainflip", table := "chainflip_swaps", conflict := "overwrite" }
    let g : Ingestor := { sources := [cf], chainflipFeed := true }
    let reg : Registry := (Registry.track {} "chainflip" ["10", "9"]).2
    let page : SwapRequests := ⟨⟨false, "", false, ""⟩, [SwapNode.completed "10", SwapNode.completed "9"], 100⟩
    let r := PassM.exec (syncChainflip ((Services.swapFeed page ["9"]).observed fun _ => []) g) ⟨(), reg, [], []⟩
    "9" ∈ (reg.get "chainflip").ids ∧ "9" ∉ (r.2.pending.get "chainflip").ids ∧
      r.2.calls.all (fun c => !c.writesSwap "9") = true := by
  decide +kernel

end Ingestor

end SwapArchive
