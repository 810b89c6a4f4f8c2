import Mathlib
import SwapArchive.Proofs.Ingest.PendingGauge
import SwapArchive.Proofs.Ingest.SavedCursor

/-!
# The counters of a pass grow by what its pages bring

A pass over a Midgard feed reports, per source and pass, the pages it took in, the records it
stored or failed to store, and the events the transformer rejected. A page with events brings one
page, the records of it the pass stores (those in the window, for a reconciliation) and its
rejected events (`Transformer.pageTally`). The counters are reported when a page is transformed
(`takePage`) and when records are stored one by one (`loadEach`) or as a batch (`loadBatch`). The
proof keeps a ledger (`Ledger.Owes`): from where the pass started, the counters plus what they
still owe equal what the pages fetched since bring. A fetch adds to what is owed, transforming and
storing pay it, and a pass that ends well owes nothing (`Ledger.Owes.settle`).
-/

namespace SwapArchive

set_option autoImplicit false

open PassM Ingestor

namespace Transformer

variable {t : Transformer}

/-- A page the transformer takes in whole is split into its records, its pending ids and the
count of its rejected events. -/
theorem transformPage_eq_ok {actions : List Action} {res : PageOutcome} (h : t.transformPage actions = .ok res) :
    res = ⟨actions.filterMap t.recordOf?, actions.filterMap t.pendingOf?, actions.countP t.isRejected⟩ := by
  by_cases hne : ∀ a ∈ actions, t.transform a ≠ .ok (.pending "")
  · rw [transformPage_eq, foldlM_pageStep_of_ne actions _ hne] at h
    cases h
    simp
  · push Not at hne
    rw [transformPage_eq, foldlM_pageStep_of_empty actions _ hne] at h
    cases h

/-- What a page brings to the counters of the pass that takes it in: the page, the records it
becomes that the pass stores (those `keep` keeps), and the events rejected. A page without events
is not taken in. -/
def pageTally (t : Transformer) (keep : List SwapRecord → List SwapRecord) (p : ActionsPage) : Nat × Nat × Nat :=
  if p.items = [] then 0 else (1, (keep (t.records p)).length, p.items.countP t.isRejected)

/-- Over pages with events, the tallies add up to the pages, their stored records and their
rejected events. -/
theorem sum_pageTally (keep : List SwapRecord → List SwapRecord) :
    ∀ P : List ActionsPage, (∀ p ∈ P, p.items ≠ []) →
      (P.map (t.pageTally keep)).sum =
        (P.length, (P.map fun p => (keep (t.records p)).length).sum, (P.map fun p => p.items.countP t.isRejected).sum)
  | [], _ => rfl
  | p :: P, hP => by
    have hp : p.items ≠ [] := hP p List.mem_cons_self
    rw [List.map_cons, List.sum_cons, sum_pageTally keep P fun q hq => hP q (List.mem_cons_of_mem p hq)]
    simp [pageTally, hp, Nat.add_comm]

end Transformer

namespace Ingestor

/-- The events of a page of a kind's feed that the kind's transformer rejects. -/
def pageRejected (g : Ingestor) (kind : String) (p : ActionsPage) : Nat :=
  match g.midgardSource kind with
  | some src => p.items.countP (Transformer.new src).isRejected
  | none => 0

end Ingestor

/-- How the counters of one pass on one source are read against the log of its calls: the source
and pass counted, the source's transformer, and which of a page's records the pass stores. -/
structure Ledger where
  kind : String
  pass : PassName
  transformer : Transformer
  keep : List SwapRecord → List SwapRecord

/-- A page a kind's feed brought holds events. -/
theorem items_ne_nil_of_mem_pagesOf {kind : String} {calls : List Call} {p : ActionsPage}
    (h : p ∈ pagesOf kind calls) : p.items ≠ [] := by
  obtain ⟨c, -, hc⟩ := List.mem_filterMap.1 h
  unfold Call.pageOf? at hc
  split at hc
  · split at hc
    · rename_i hkp
      cases hc
      exact hkp.2
    · cases hc
  · cases hc

namespace Ledger

/-- The ledger of a pass over a Midgard source. -/
def ofSource {τ : Type} (src : MidgardSource τ) (pass : PassName) (keep : List SwapRecord → List SwapRecord) :
    Ledger :=
  ⟨src.config.kind, pass, src.transformer, keep⟩

variable (L : Ledger)

/-- What the pages of the ledger's source in a log of calls bring to its counters. -/
def brought (calls : List Call) : Nat × Nat × Nat := ((pagesOf L.kind calls).map (L.transformer.pageTally L.keep)).sum

@[simp] theorem brought_append (xs ys : List Call) : L.brought (xs ++ ys) = L.brought xs + L.brought ys := by
  simp [brought]

/-- Calls that bring no page of the source bring nothing. -/
theorem brought_eq_zero {cs : List Call} (h : ∀ c ∈ cs, c.pageOf? L.kind = none) : L.brought cs = 0 := by
  simp [brought, pagesOf, List.filterMap_eq_nil_iff.2 h]

theorem brought_quiet {cs : List Call} (h : Quiet cs) : L.brought cs = 0 :=
  L.brought_eq_zero fun c hc => (h c hc).1 L.kind

/-- One more call that brings no page of the source brings nothing more. -/
theorem brought_concat_of {c : Call} (h : c.pageOf? L.kind = none) (cs : List Call) :
    L.brought (cs ++ [c]) = L.brought cs := by
  have h0 : L.brought [c] = 0 := L.brought_eq_zero fun c' hc' => by rw [List.mem_singleton.1 hc']; exact h
  rw [brought_append, h0, add_zero]

/-- A page call of the source brings what its page brings. -/
theorem brought_page (req : PageRequest) (p : ActionsPage) :
    L.brought [.page L.kind req (.ok p)] = L.transformer.pageTally L.keep p := by
  by_cases hp : p.items = []
  · simp [brought, pagesOf, Call.pageOf?, Transformer.pageTally, hp]
  · simp [brought, pagesOf, Call.pageOf?, hp]

variable {σ : Type}

/-- Counted from `o₀`, the counters of the ledger owe `d` in `o`: with `d` added, they have grown
by exactly what the pages fetched since `o₀` bring. -/
def Owes (o₀ : Observed (σ × IngestMetrics)) (d : Nat × Nat × Nat) (o : Observed (σ × IngestMetrics)) : Prop :=
  o.world.2.tally (L.kind, L.pass) + d + L.brought o₀.calls = o₀.world.2.tally (L.kind, L.pass) + L.brought o.calls

namespace Owes

variable {L} {o₀ o o' : Observed (σ × IngestMetrics)} {d d' : Nat × Nat × Nat}

theorem refl (o₀ : Observed (σ × IngestMetrics)) : L.Owes o₀ 0 o₀ := by
  simp [Owes]

/-- A step that adds `a` to the counters and fetches pages bringing `b` moves what is owed from
`d` to `d'`, when `d + b = d' + a`. -/
theorem step (h : L.Owes o₀ d o) {a b : Nat × Nat × Nat}
    (htally : o'.world.2.tally (L.kind, L.pass) = o.world.2.tally (L.kind, L.pass) + a)
    (hcalls : L.brought o'.calls = L.brought o.calls + b) (hd : d + b = d' + a) : L.Owes o₀ d' o' := by
  unfold Owes at h ⊢
  rw [htally, hcalls, ← add_assoc, ← h]
  calc o.world.2.tally (L.kind, L.pass) + a + d' + L.brought o₀.calls
      = o.world.2.tally (L.kind, L.pass) + (d' + a) + L.brought o₀.calls := by abel
    _ = o.world.2.tally (L.kind, L.pass) + (d + b) + L.brought o₀.calls := by rw [hd]
    _ = o.world.2.tally (L.kind, L.pass) + d + L.brought o₀.calls + b := by abel

/-- A step that touches neither the metrics nor the pages of the log leaves the ledger. -/
theorem congr (h : L.Owes o₀ d o) (hw : o'.world.2 = o.world.2) (hb : L.brought o'.calls = L.brought o.calls) :
    L.Owes o₀ d o' := by
  unfold Owes at h ⊢
  rw [hw, hb]
  exact h

theorem of_eq (h : L.Owes o₀ d o) (hd : d = d') : L.Owes o₀ d' o := hd ▸ h

/-- Owing nothing, the counters have grown by what the pages of the calls added since `o₀`
bring. -/
theorem settle (h : L.Owes o₀ 0 o) {cs : List Call} (hcs : o.calls = o₀.calls ++ cs) :
    o.world.2.tally (L.kind, L.pass) = o₀.world.2.tally (L.kind, L.pass) + L.brought cs := by
  unfold Owes at h
  rw [hcs, brought_append, add_zero, ← add_assoc, add_right_comm] at h
  exact add_right_cancel h

end Owes

end Ledger

/-! ## Steps of a pass and the ledger -/

section Steps

variable {σ : Type} (svc : Services σ) {others : σ × IngestMetrics → List (String × List String)}
  (L : Ledger) {o₀ : Observed (σ × IngestMetrics)}

/-- A report adds its tally to the counters. -/
theorem tally_report (others : σ × IngestMetrics → List (String × List String)) (p : Progress)
    (o : Observed (σ × IngestMetrics)) (key : String × PassName) :
    ((svc.metered.observed others).report p o).world.2.tally key = o.world.2.tally key + p.tally key :=
  IngestMetrics.tally_observe _ _ _

theorem lands_owes_report (p : Progress) (d' : Nat × Nat × Nat) {d : Nat × Nat × Nat}
    (hd : d = d' + p.tally (L.kind, L.pass)) {o : Observed (σ × IngestMetrics)} (h : L.Owes o₀ d o) :
    Lands (fun _ => True) (fun o' (_ : Unit) => L.Owes o₀ d' o') o
      (exec (report (svc.metered.observed others) p) o) := by
  rw [exec_report]
  refine ⟨⟨[], (List.append_nil _).symm⟩, trivial, fun _ _ => h.step (tally_report svc others p o _) (b := 0) ?_ ?_⟩
  · exact (add_zero _).symm
  · rw [add_zero, hd]

/-- Tracking pending ids reports a set's size, which no counter reads. -/
theorem lands_owes_trackPending (kind : String) (ids : List String) {d : Nat × Nat × Nat}
    {o : Observed (σ × IngestMetrics)} (h : L.Owes o₀ d o) :
    Lands (fun _ => True) (fun o' (_ : Unit) => L.Owes o₀ d o') o
      (exec (trackPending (svc.metered.observed others) kind ids) o) := by
  have hrun : exec (trackPending (svc.metered.observed others) kind ids) o =
      exec (reportPending (svc.metered.observed others) kind) { o with pending := (o.pending.track kind ids).2 } :=
    rfl
  rw [hrun, exec_reportPending]
  refine ⟨⟨[], (List.append_nil _).symm⟩, trivial, fun _ _ => h.step (tally_report svc others _ _ _) (b := 0) ?_ ?_⟩
  · exact (add_zero _).symm
  · simp [Progress.tally]

/-- A call of the world alone that brings no page of the source, whatever it answers, leaves the
ledger. -/
theorem lands_owes_attempt_ask {ε β : Type} (f : σ → Except ε β × σ) (log : Except ε β → Call)
    (hlog : ∀ b, (log b).pageOf? L.kind = none) (wrap : ε → PassError) {d : Nat × Nat × Nat}
    {o : Observed (σ × IngestMetrics)} (h : L.Owes o₀ d o) :
    Lands (fun _ => True) (fun o' (_ : β) => L.Owes o₀ d o') o
      (exec (attempt (Observed.ask others (IngestMetrics.beside f) log) wrap) o) := by
  have h' : L.Owes o₀ d (Observed.ask others (IngestMetrics.beside f) log o).2 := by
    refine h.congr (ask_beside_metrics _ _ _ _) ?_
    rw [Observed.ask_snd, Observed.after_calls, L.brought_concat_of (hlog _)]
  rw [exec_attempt]
  rcases hr : Observed.ask others (IngestMetrics.beside f) log o with ⟨_ | b, o'⟩ <;> rw [hr] at h' <;>
    dsimp only
  · exact ⟨⟨_, by rw [← (Prod.ext_iff.1 hr).2]; rfl⟩, trivial, fun _ hb => by cases hb⟩
  · exact ⟨⟨_, by rw [← (Prod.ext_iff.1 hr).2]; rfl⟩, trivial, fun _ _ => h'⟩

/-- Fetching a page of the source adds what the page brings to what is owed. -/
theorem lands_owes_fetch (req : PageRequest) {d : Nat × Nat × Nat} {o : Observed (σ × IngestMetrics)}
    (h : L.Owes o₀ d o) :
    Lands (fun _ => True) (fun o' page => L.Owes o₀ (d + L.transformer.pageTally L.keep page) o') o
      (exec (fetch (svc.metered.observed others) L.kind req) o) := by
  have hl : Lands (fun _ => True) (fun o' page => o'.calls = o.calls ++ [.page L.kind req (.ok page)]) o
      (exec (fetch (svc.metered.observed others) L.kind req) o) :=
    lands_fetch svc.metered L.kind req fun _ => trivial
  have hw : (exec (fetch (svc.metered.observed others) L.kind req) o).2.world.2 = o.world.2 := by
    rw [exec_fetch]
    rfl
  obtain ⟨hgrow, -, hq⟩ := hl
  refine ⟨hgrow, trivial, fun page hok => h.step (a := 0) (b := L.transformer.pageTally L.keep page) ?_ ?_ ?_⟩
  · rw [hw, add_zero]
  · rw [hq page hok, Ledger.brought_append, Ledger.brought_page]
  · rw [add_zero]

/-- Asking the feed for a page of the source: a page adds what it brings to what is owed, a
failure adds nothing. -/
theorem lands_owes_fetchPage (req : PageRequest) {d : Nat × Nat × Nat} {o : Observed (σ × IngestMetrics)}
    (h : L.Owes o₀ d o) :
    Lands (fun _ => True)
      (fun o' answer => (∀ m, answer = .error m → L.Owes o₀ d o') ∧
        ∀ page, answer = .ok page → L.Owes o₀ (d + L.transformer.pageTally L.keep page) o') o
      (exec (perform ((svc.metered.observed others).fetchPage L.kind req)) o) := by
  have hl : Lands (fun _ => True) (fun o' answer => o'.calls = o.calls ++ [.page L.kind req answer]) o
      (exec (perform ((svc.metered.observed others).fetchPage L.kind req)) o) :=
    lands_fetchPage svc.metered L.kind req fun _ => trivial
  have hw : (exec (perform ((svc.metered.observed others).fetchPage L.kind req)) o).2.world.2 = o.world.2 := by
    rw [exec_perform]
    rfl
  obtain ⟨hgrow, -, hq⟩ := hl
  refine ⟨hgrow, trivial, fun answer hans => ⟨fun m hm => ?_, fun page hp => ?_⟩⟩
  · refine h.step (a := 0) (b := 0) (by rw [hw, add_zero]) ?_ (by rw [add_zero])
    rw [hq answer hans, hm, L.brought_concat_of rfl, add_zero]
  · refine h.step (a := 0) (b := L.transformer.pageTally L.keep page) (by rw [hw, add_zero]) ?_ (by rw [add_zero])
    rw [hq answer hans, hp, Ledger.brought_append, Ledger.brought_page]

/-- Transforming a page with events pays the page and its rejected events; what stays owed is
the page's records that the pass stores. -/
theorem lands_owes_takePage (src : MidgardSource (Observed (σ × IngestMetrics))) (pass : PassName)
    (keep : List SwapRecord → List SwapRecord) (page : ActionsPage) (hne : page.items ≠ [])
    {d : Nat × Nat × Nat} {o : Observed (σ × IngestMetrics)}
    (h : (Ledger.ofSource src pass keep).Owes o₀ (d + src.transformer.pageTally keep page) o) :
    Lands (fun _ => True) (fun o' records => records = src.transformer.records page ∧
        (Ledger.ofSource src pass keep).Owes o₀ (d + (0, (keep records).length, 0)) o') o
      (exec (takePage (svc.metered.observed others) src pass page.items) o) := by
  unfold takePage
  rcases hres : src.transformer.transformPage page.items with m | res
  · exact Lands.throw trivial
  dsimp only
  have hrec : res.records = src.transformer.records page := by simp [Transformer.records, hres]
  obtain rfl := Transformer.transformPage_eq_ok hres
  dsimp only at hrec ⊢
  rw [hrec]
  refine Lands.bind (lands_owes_report svc _ (.pageFetched _ _)
    (d + (0, (keep (src.transformer.records page)).length, page.items.countP src.transformer.isRejected)) ?_ h)
    fun _ o₁ h₁ => ?_
  · simp [Transformer.pageTally, hne, Progress.tally, Ledger.ofSource, Prod.ext_iff]
  split
  · refine Lands.bind (lands_owes_report svc _ (.recordsSkipped _ _ _)
      (d + (0, (keep (src.transformer.records page)).length, 0)) ?_ h₁) fun _ o₂ h₂ => ?_
    · simp [Progress.tally, Ledger.ofSource, Prod.ext_iff]
    exact Lands.bind (lands_owes_trackPending svc _ _ _ h₂) fun _ o₃ h₃ => Lands.pure trivial ⟨rfl, h₃⟩
  · rename_i hnone
    have h₂ : (Ledger.ofSource src pass keep).Owes o₀ (d + (0, (keep (src.transformer.records page)).length, 0)) o₁ :=
      h₁.of_eq (by
        simp only [gt_iff_lt, not_lt, Nat.le_zero] at hnone
        simp [hnone])
    exact Lands.bind (lands_owes_trackPending svc _ _ _ h₂) fun _ o₃ h₃ => Lands.pure trivial ⟨rfl, h₃⟩

/-- No call of the world alone changes the metrics. -/
theorem askStable_metrics (m : IngestMetrics) : AskStable others (fun o => o.world.2 = m) :=
  fun _ f log o h => (ask_beside_metrics others f log o).trans h

/-- Rows stored on their own make quiet calls. -/
theorem quiet_storeOnes (table policy : String) (rows : List Row) (answers : List (Except String Unit)) :
    Quiet (List.zipWith (.storeOne table policy) rows answers) :=
  fun c hc => quiet_batchCalls table policy rows (.error "") answers c (List.mem_cons_of_mem _ hc)

/-- Storing rows through a writer whose stores are calls of the world alone, logged as stores:
the rows stored and refused add up to the rows, and neither the metrics nor the pages of the log
change. -/
theorem lands_lift_stores {m : StateM (Observed (σ × IngestMetrics)) (Nat × List DatabaseError)} (N : Nat)
    (hm : ∀ o, (m.run o).1.1 + (m.run o).1.2.length = N ∧ (m.run o).2.world.2 = o.world.2 ∧
      ∃ cs, (m.run o).2.calls = o.calls ++ cs ∧ Quiet cs) (o : Observed (σ × IngestMetrics)) :
    Lands (fun _ => True)
      (fun o' r => r.1 + r.2.length = N ∧ o'.world.2 = o.world.2 ∧ L.brought o'.calls = L.brought o.calls) o
      (exec (ExceptT.lift m : PassM (Observed (σ × IngestMetrics)) _) o) := by
  obtain ⟨hacc, hw, cs, hcs, hq⟩ := hm o
  rw [exec_lift]
  refine ⟨⟨cs, hcs⟩, trivial, fun r hr => ?_⟩
  cases hr
  exact ⟨hacc, hw, by rw [hcs, Ledger.brought_append, L.brought_quiet hq, add_zero]⟩

section Stores

variable {α : Type} {W : Writer (Observed (σ × IngestMetrics)) α} {inj : α → Row} {policy : String}
  {batch : List α → σ × IngestMetrics → Except String Unit × (σ × IngestMetrics)}
  {one : α → σ × IngestMetrics → Except String Unit × (σ × IngestMetrics)}

/-- Storing records one by one pays them: each is stored or refused, and counted so. -/
theorem lands_owes_loadEach (src : MidgardSource (Observed (σ × IngestMetrics)))
    {batch : List SwapRecord → σ × IngestMetrics → Except String Unit × (σ × IngestMetrics)}
    {one : SwapRecord → σ × IngestMetrics → Except String Unit × (σ × IngestMetrics)}
    (hW : src.writer.Logs others .record policy batch one) (hB : src.writer.Beside others)
    (hk : src.config.kind = L.kind) (records : List SwapRecord) {d : Nat × Nat × Nat}
    {o : Observed (σ × IngestMetrics)} (h : L.Owes o₀ (d + (0, records.length, 0)) o) :
    Lands (fun _ => True) (fun o' (_ : Unit) => L.Owes o₀ d o') o
      (exec (loadEach (svc.metered.observed others) src L.pass records) o) := by
  unfold loadEach
  refine Lands.bind (lands_lift_stores L records.length (fun o' => ⟨Writer.loadEach_accounts _ records o',
    (askStable_metrics o'.world.2).loadEach hB records rfl, ?_⟩) o) ?_
  · obtain ⟨answers, -, hmoves, -⟩ := Writer.loadEach_logs hW records o'
    exact ⟨_, hmoves.1, quiet_storeOnes _ _ _ _⟩
  rintro ⟨n, errs⟩ o₁ ⟨hacc, hw, hb⟩
  dsimp only
  refine Lands.bind (lands_owes_report svc L _ d ?_ (h.congr hw hb)) fun _ o₂ h₂ => ?_
  · simp [Progress.tally, hk, hacc]
  split
  · exact Lands.throw trivial
  · exact Lands.pure trivial h₂

/-- Storing records as a batch, or one by one once the batch is refused, pays them. -/
theorem lands_owes_loadBatch (hW : W.Logs others inj policy batch one) (hB : W.Beside others) (xs : List α)
    {d : Nat × Nat × Nat} {o : Observed (σ × IngestMetrics)} (h : L.Owes o₀ (d + (0, xs.length, 0)) o) :
    Lands (fun _ => True) (fun o' (_ : Unit) => L.Owes o₀ d o') o
      (exec (loadBatch (svc.metered.observed others) L.kind W L.pass xs) o) := by
  unfold loadBatch
  by_cases hne : xs = []
  · subst hne
    exact Lands.pure trivial (h.of_eq (by simp))
  rw [if_neg (by simpa using hne)]
  refine Lands.bind (lands_lift_stores L xs.length (fun o' => ⟨Writer.loadBatch_accounts W xs o',
    (askStable_metrics o'.world.2).loadBatch hB xs rfl, ?_⟩) o) ?_
  · obtain ⟨a, answers, -, hmoves, -⟩ := Writer.loadBatch_logs hW hne o'
    exact ⟨_, hmoves.1, quiet_batchCalls _ _ _ _ _⟩
  rintro ⟨n, errs⟩ o₁ ⟨hacc, hw, hb⟩
  dsimp only
  refine Lands.bind (lands_owes_report svc L _ d ?_ (h.congr hw hb)) fun _ o₂ h₂ => ?_
  · simp [Progress.tally, hacc]
  split
  · exact Lands.throw trivial
  · exact Lands.pure trivial h₂

end Stores

/-- Saving a cursor makes a call that brings no page and reports the save, which no counter reads. -/
theorem lands_owes_saveCursor (dir : Direction) (cursor : String) {d : Nat × Nat × Nat}
    {o : Observed (σ × IngestMetrics)} (h : L.Owes o₀ d o) :
    Lands (fun _ => True) (fun o' (_ : Unit) => L.Owes o₀ d o') o
      (exec (saveCursor (svc.metered.observed others) L.kind dir cursor) o) := by
  unfold saveCursor
  refine Lands.bind (lands_owes_attempt_ask L _ _ (fun _ => rfl) _ h) fun _ o₁ h₁ => ?_
  rw [exec_bind, exec_get]
  exact lands_owes_report svc L (.cursorSaved _ _ _) d (by simp [Progress.tally]) h₁

/-- Asking for the lock and freeing it touch neither the metrics nor the log: the pass owes what
its body owes, and nothing when another run holds the lock. -/
theorem lands_owes_exclusive (key : String) {body : PassM (Observed (σ × IngestMetrics)) Unit}
    {o : Observed (σ × IngestMetrics)} (h : L.Owes o₀ 0 o)
    (hbody : ∀ o₁, L.Owes o₀ 0 o₁ → Lands (fun _ => True) (fun o' (_ : Unit) => L.Owes o₀ 0 o') o₁ (exec body o₁)) :
    Lands (fun _ => True) (fun o' (_ : Unit) => L.Owes o₀ 0 o') o
      (exec (exclusive (svc.metered.observed others) key body) o) := by
  rcases hlock : (svc.metered.observed others).tryLock key o with ⟨_ | _, o₁⟩
  · rw [exclusive_skip _ hlock]
    obtain rfl : o₁ = ((svc.metered.observed others).tryLock key o).2 := by rw [hlock]
    exact ⟨⟨[], (List.append_nil _).symm⟩, trivial, fun _ _ => h.congr rfl rfl⟩
  · rw [exclusive_taken _ hlock]
    obtain rfl : o₁ = ((svc.metered.observed others).tryLock key o).2 := by rw [hlock]
    obtain ⟨⟨cs, hcs⟩, -, hq⟩ := hbody ((svc.metered.observed others).tryLock key o).2 (h.congr rfl rfl)
    exact ⟨⟨cs, hcs⟩, trivial, fun _ hok => (hq _ hok).congr rfl rfl⟩

end Steps

/-! ## The walks over a feed -/

section Walks

variable {σ : Type} (svc : Services σ) {others : σ × IngestMetrics → List (String × List String)}
  {o₀ : Observed (σ × IngestMetrics)} (src : MidgardSource (Observed (σ × IngestMetrics))) {policy : String}
  {batch : List SwapRecord → σ × IngestMetrics → Except String Unit × (σ × IngestMetrics)}
  {one : SwapRecord → σ × IngestMetrics → Except String Unit × (σ × IngestMetrics)}
  (hW : src.writer.Logs others .record policy batch one) (hB : src.writer.Beside others)
include hW hB

/-- The live tail's walk, entered with a page fetched and still owed, pays for it and for every
page it fetches after it. The induction is on the pages left. -/
theorem lands_owes_tailWalk (left : Nat) (hleft : 0 < left) :
    ∀ (page : ActionsPage) (d : Nat × Nat × Nat) (o : Observed (σ × IngestMetrics)),
      (Ledger.ofSource src .liveTail id).Owes o₀ (d + src.transformer.pageTally id page) o →
      Lands (fun _ => True) (fun o' (_ : Unit) => (Ledger.ofSource src .liveTail id).Owes o₀ d o') o
        (exec (tailWalk (svc.metered.observed others) src left page) o) := by
  induction left with
  | zero => omega
  | succ left ih =>
    intro page d o h
    rw [tailWalk]
    by_cases hempty : page.items.isEmpty
    · rw [if_pos hempty]
      exact Lands.pure trivial (h.of_eq (by simp [Transformer.pageTally, List.isEmpty_iff.1 hempty]))
    rw [if_neg hempty]
    refine Lands.bind (lands_owes_takePage svc src .liveTail id page (by simpa using hempty) h) ?_
    rintro records o₁ ⟨-, h₁⟩
    refine Lands.bind (lands_owes_loadEach svc (Ledger.ofSource src .liveTail id) src hW hB rfl records h₁)
      fun _ o₂ h₂ => ?_
    split
    · exact Lands.pure trivial h₂
    · rename_i hgo
      refine Lands.bind (lands_owes_fetch svc (Ledger.ofSource src .liveTail id) _ h₂) fun older o₃ h₃ => ?_
      exact ih (Nat.pos_of_ne_zero fun h0 => hgo (.inr h0)) older d o₃ h₃

/-- Storing what the backfill gathered pays for it and leaves nothing gathered. -/
theorem lands_owes_flush (st : BackfillState) (next : String) {o : Observed (σ × IngestMetrics)}
    (h : (Ledger.ofSource src .backfill id).Owes o₀ (0, st.batch.length, 0) o) :
    Lands (fun _ => True) (fun o' st' => st'.batch = [] ∧ (Ledger.ofSource src .backfill id).Owes o₀ 0 o') o
      (exec (flush (svc.metered.observed others) src st next) o) := by
  unfold flush
  exact Lands.bind
    (lands_owes_loadBatch svc (Ledger.ofSource src .backfill id) hW hB st.batch (h.of_eq (zero_add _).symm))
    fun _ o₁ h₁ => Lands.pure trivial ⟨rfl, h₁⟩

theorem lands_owes_finishBackfill (st : BackfillState) {o : Observed (σ × IngestMetrics)}
    (h : (Ledger.ofSource src .backfill id).Owes o₀ (0, st.batch.length, 0) o) :
    Lands (fun _ => True) (fun o' (_ : Unit) => (Ledger.ofSource src .backfill id).Owes o₀ 0 o') o
      (exec (finishBackfill (svc.metered.observed others) src st) o) := by
  unfold finishBackfill
  exact Lands.bind (lands_owes_flush svc src hW hB st _ h) fun _ o₁ h₁ =>
    lands_owes_saveCursor svc (Ledger.ofSource src .backfill id) .prev _ h₁.2

/-- The backfill's walk, entered with a page fetched and still owed, owes on every page only the
records it has gathered and not stored yet. The induction is on the pages left. -/
theorem lands_owes_backfillWalk (flushEvery left : Nat) (hleft : 0 < left) :
    ∀ (page : ActionsPage) (st : BackfillState) (o : Observed (σ × IngestMetrics)),
      (Ledger.ofSource src .backfill id).Owes o₀ ((0, st.batch.length, 0) + src.transformer.pageTally id page) o →
      Lands (fun _ => True) (fun o' st' => (Ledger.ofSource src .backfill id).Owes o₀ (0, st'.batch.length, 0) o') o
        (exec (backfillWalk (svc.metered.observed others) src flushEvery left page st) o) := by
  induction left with
  | zero => omega
  | succ left ih =>
    intro page st o h
    rw [backfillWalk]
    by_cases hempty : page.items.isEmpty
    · rw [if_pos hempty]
      exact Lands.pure trivial (h.of_eq (by simp [Transformer.pageTally, List.isEmpty_iff.1 hempty]))
    rw [if_neg hempty]
    refine Lands.bind (lands_owes_takePage svc src .backfill id page (by simpa using hempty) h) ?_
    rintro records o₁ ⟨-, h₁⟩
    dsimp only
    rw [exec_ite_bind]
    refine Lands.bind (Q := fun o₂ st₂ => (Ledger.ofSource src .backfill id).Owes o₀ (0, st₂.batch.length, 0) o₂)
      ?_ ?_
    · have hg : (Ledger.ofSource src .backfill id).Owes o₀ (0, (st.batch ++ records).length, 0) o₁ :=
        h₁.of_eq (by simp)
      rw [exec_ite]
      split
      · exact (lands_owes_flush svc src hW hB _ _ hg).mono fun o₂ st₂ h₂ => h₂.2.of_eq (by rw [h₂.1]; rfl)
      · exact Lands.pure trivial hg
    rintro st₂ o₂ h₂
    refine Lands.bind (lands_owes_saveCursor svc (Ledger.ofSource src .backfill id) .prev _ h₂) fun _ o₃ h₃ => ?_
    rw [exec_bind, exec_get]
    dsimp only
    split
    · exact Lands.pure trivial h₃
    rename_i hgo
    refine Lands.bind (lands_owes_fetchPage svc (Ledger.ofSource src .backfill id) _ h₃) ?_
    rintro (m | older) o₄ ⟨herr, hok⟩
    · exact Lands.bind (lands_owes_finishBackfill svc src hW hB _ (herr m rfl)) fun _ _ _ => Lands.throw trivial
    · exact ih (Nat.pos_of_ne_zero fun h0 => hgo (.inr (.inl h0))) older _ o₄ (hok older rfl)

/-- The forward walk pays for every page it fetches. The induction is on the pages left. -/
theorem lands_owes_forwardWalk (left : Nat) :
    ∀ (cursor : String) (d : Nat × Nat × Nat) (o : Observed (σ × IngestMetrics)),
      (Ledger.ofSource src .forwardHistory id).Owes o₀ d o →
      Lands (fun _ => True) (fun o' (_ : Unit) => (Ledger.ofSource src .forwardHistory id).Owes o₀ d o') o
        (exec (forwardWalk (svc.metered.observed others) src left cursor) o) := by
  induction left with
  | zero =>
    intro cursor d o h
    rw [forwardWalk]
    exact Lands.pure trivial h
  | succ left ih =>
    intro cursor d o h
    rw [forwardWalk, exec_bind, exec_get]
    dsimp only
    split
    · exact Lands.pure trivial h
    refine Lands.bind (lands_owes_fetch svc (Ledger.ofSource src .forwardHistory id) _ h) fun page o₁ h₁ => ?_
    split
    · rename_i hempty
      exact Lands.pure trivial (h₁.of_eq (by simp [Transformer.pageTally, List.isEmpty_iff.1 hempty]))
    rename_i hempty
    refine Lands.bind (lands_owes_takePage svc src .forwardHistory id page (by simpa using hempty) h₁) ?_
    rintro records o₂ ⟨-, h₂⟩
    refine Lands.bind (lands_owes_loadBatch svc (Ledger.ofSource src .forwardHistory id) hW hB records h₂)
      fun _ o₃ h₃ => ?_
    split
    · exact Lands.pure trivial h₃
    · exact Lands.bind (lands_owes_saveCursor svc (Ledger.ofSource src .forwardHistory id) .next _ h₃)
        fun _ o₄ h₄ => ih _ d o₄ h₄

/-- The reconciliation's walk, entered with a page fetched and still owed, pays for it and for
every page it fetches after it, counting the records in the window. -/
theorem lands_owes_reconcileWalk (start stop : Instant) (left : Nat) (hleft : 0 < left) :
    ∀ (page : ActionsPage) (d : Nat × Nat × Nat) (o : Observed (σ × IngestMetrics)),
      (Ledger.ofSource src .reconcile fun rs => Reconcile.inWindow rs start.sec stop.sec).Owes o₀
        (d + src.transformer.pageTally (fun rs => Reconcile.inWindow rs start.sec stop.sec) page) o →
      Lands (fun _ => True)
        (fun o' (_ : Unit) => (Ledger.ofSource src .reconcile fun rs => Reconcile.inWindow rs start.sec stop.sec).Owes
          o₀ d o') o
        (exec (reconcileWalk (svc.metered.observed others) src start stop left page) o) := by
  induction left with
  | zero => omega
  | succ left ih =>
    intro page d o h
    rw [reconcileWalk]
    by_cases hempty : page.items.isEmpty
    · rw [if_pos hempty]
      exact Lands.pure trivial (h.of_eq (by simp [Transformer.pageTally, List.isEmpty_iff.1 hempty]))
    rw [if_neg hempty]
    refine Lands.bind (lands_owes_takePage svc src .reconcile _ page (by simpa using hempty) h) ?_
    rintro records o₁ ⟨-, h₁⟩
    refine Lands.bind (lands_owes_loadBatch svc
      (Ledger.ofSource src .reconcile fun rs => Reconcile.inWindow rs start.sec stop.sec) hW hB _ h₁) fun _ o₂ h₂ => ?_
    split
    · exact Lands.pure trivial h₂
    · rename_i hgo
      refine Lands.bind (lands_owes_fetch svc
        (Ledger.ofSource src .reconcile fun rs => Reconcile.inWindow rs start.sec stop.sec) _ h₂) fun older o₃ h₃ => ?_
      exact ih (Nat.pos_of_ne_zero fun h0 => hgo (.inr (.inr h0))) older d o₃ h₃

end Walks

/-! ## The passes -/

namespace PassRequest

/-- The passes that walk a Midgard feed: the source and pass their counters are kept under, and
which of a page's records they store. -/
def counted : PassRequest → Option (String × PassName × (List SwapRecord → List SwapRecord))
  | .liveTail k => some (k, .liveTail, id)
  | .backfill k => some (k, .backfill, id)
  | .forwardHistory k => some (k, .forwardHistory, id)
  | .reconcile k a b => some (k, .reconcile, fun rs => Reconcile.inWindow rs a b)
  | _ => none

end PassRequest

/-- Looking up a kind's Midgard source makes no call: a pass built on the source found lands where
its body lands. -/
theorem lands_midgard_bind {τ β : Type} {svc : Services (Observed τ)} {g : Ingestor} {kind : String} {cfg : Source}
    (hcfg : g.midgardSource kind = some cfg) {Inv : List Call → Prop} {Q : Observed τ → β → Prop}
    {o : Observed τ} {f : MidgardSource (Observed τ) → PassM (Observed τ) β}
    (hf : Lands Inv Q o (exec (f ⟨cfg, Transformer.new cfg, recordWriter svc cfg⟩) o)) :
    Lands Inv Q o (exec (g.midgard svc kind >>= f) o) := by
  rw [exec_bind, exec_midgard, hcfg]
  exact hf

section Passes

variable {σ : Type} (svc : Services σ) (others : σ × IngestMetrics → List (String × List String))
  (g : Ingestor) {kind : String} {cfg : Source} (hcfg : g.midgardSource kind = some cfg)
  (o : Observed (σ × IngestMetrics))
include hcfg

theorem lands_owes_liveTail :
    Lands (fun _ => True) (fun o' (_ : Unit) => (⟨kind, .liveTail, Transformer.new cfg, id⟩ : Ledger).Owes o 0 o') o
      (exec (liveTail (svc.metered.observed others) g kind) o) := by
  obtain rfl := midgardSource_kind hcfg
  unfold liveTail
  refine lands_midgard_bind hcfg ?_
  have hW : (recordWriter (svc.metered.observed others) cfg).Logs others .record cfg.conflict _ _ :=
    recordWriter_logs svc.metered cfg
  have hB := recordWriter_beside svc others cfg
  refine lands_owes_exclusive svc ⟨cfg.kind, .liveTail, Transformer.new cfg, id⟩ _ (Ledger.Owes.refl o)
    fun o₁ h₁ => ?_
  refine Lands.bind (lands_owes_attempt_ask ⟨cfg.kind, .liveTail, Transformer.new cfg, id⟩ _ _ (fun _ => rfl) _ h₁)
    fun latest o₂ h₂ => ?_
  have hwalk : ∀ (start : Int) (o₃ : Observed (σ × IngestMetrics)),
      (⟨cfg.kind, .liveTail, Transformer.new cfg, id⟩ : Ledger).Owes o 0 o₃ →
      Lands (fun _ => True) (fun o' (_ : Unit) => (⟨cfg.kind, .liveTail, Transformer.new cfg, id⟩ : Ledger).Owes o 0 o')
        o₃ (exec (fetch (svc.metered.observed others) cfg.kind (.latest start) >>= fun page =>
          tailWalk (svc.metered.observed others)
            ⟨cfg, Transformer.new cfg, recordWriter (svc.metered.observed others) cfg⟩ g.maxPages page) o₃) :=
    fun start o₃ h₃ =>
      Lands.bind (lands_owes_fetch svc ⟨cfg.kind, .liveTail, Transformer.new cfg, id⟩ (.latest start) h₃)
        fun page o₄ h₄ => lands_owes_tailWalk svc ⟨cfg, Transformer.new cfg, _⟩ hW hB g.maxPages g.maxPages_pos
          page 0 o₄ h₄
  split
  · exact Lands.bind (Q := fun o' _ => (⟨cfg.kind, .liveTail, Transformer.new cfg, id⟩ : Ledger).Owes o 0 o')
      (Lands.pure trivial h₂) hwalk
  · rw [exec_bind, exec_get]
    exact Lands.bind (Q := fun o' _ => (⟨cfg.kind, .liveTail, Transformer.new cfg, id⟩ : Ledger).Owes o 0 o')
      (Lands.pure trivial h₂) hwalk

theorem lands_owes_backfill :
    Lands (fun _ => True) (fun o' (_ : Unit) => (⟨kind, .backfill, Transformer.new cfg, id⟩ : Ledger).Owes o 0 o') o
      (exec (backfill (svc.metered.observed others) g kind) o) := by
  obtain rfl := midgardSource_kind hcfg
  unfold backfill
  refine lands_midgard_bind hcfg ?_
  have hW : (recordWriter (svc.metered.observed others) cfg).Logs others .record cfg.conflict _ _ :=
    recordWriter_logs svc.metered cfg
  have hB := recordWriter_beside svc others cfg
  refine lands_owes_exclusive svc ⟨cfg.kind, .backfill, Transformer.new cfg, id⟩ _ (Ledger.Owes.refl o)
    fun o₁ h₁ => ?_
  refine Lands.bind (lands_owes_attempt_ask ⟨cfg.kind, .backfill, Transformer.new cfg, id⟩ _ _ (fun _ => rfl) _ h₁)
    fun cursor o₂ h₂ => ?_
  refine Lands.bind (lands_owes_fetch svc ⟨cfg.kind, .backfill, Transformer.new cfg, id⟩ _ h₂) fun first o₃ h₃ => ?_
  refine Lands.bind (lands_owes_backfillWalk svc ⟨cfg, Transformer.new cfg, _⟩ hW hB g.flushEvery g.maxPages
    g.maxPages_pos first ⟨[], 0, cursor, cursor⟩ o₃ (h₃.of_eq (by simp))) fun st o₄ h₄ => ?_
  exact lands_owes_finishBackfill svc ⟨cfg, Transformer.new cfg, _⟩ hW hB st h₄

theorem lands_owes_forwardHistory :
    Lands (fun _ => True)
      (fun o' (_ : Unit) => (⟨kind, .forwardHistory, Transformer.new cfg, id⟩ : Ledger).Owes o 0 o') o
      (exec (forwardHistory (svc.metered.observed others) g kind) o) := by
  obtain rfl := midgardSource_kind hcfg
  unfold forwardHistory
  refine lands_midgard_bind hcfg ?_
  have hW : (recordWriter (svc.metered.observed others) cfg).Logs others .record cfg.conflict _ _ :=
    recordWriter_logs svc.metered cfg
  have hB := recordWriter_beside svc others cfg
  refine lands_owes_exclusive svc ⟨cfg.kind, .forwardHistory, Transformer.new cfg, id⟩ _ (Ledger.Owes.refl o)
    fun o₁ h₁ => ?_
  exact Lands.bind
    (lands_owes_attempt_ask ⟨cfg.kind, .forwardHistory, Transformer.new cfg, id⟩ _ _ (fun _ => rfl) _ h₁)
    fun cursor o₂ h₂ => lands_owes_forwardWalk svc ⟨cfg, Transformer.new cfg, _⟩ hW hB g.maxPages cursor 0 o₂ h₂

theorem lands_owes_reconcile (start stop : Instant) :
    Lands (fun _ => True)
      (fun o' (_ : Unit) => (⟨kind, .reconcile, Transformer.new cfg,
        fun rs => Reconcile.inWindow rs start.sec stop.sec⟩ : Ledger).Owes o 0 o') o
      (exec (reconcile (svc.metered.observed others) g kind start stop) o) := by
  obtain rfl := midgardSource_kind hcfg
  unfold reconcile
  refine lands_midgard_bind hcfg ?_
  have hW : (recordWriter (svc.metered.observed others) cfg).Logs others .record cfg.conflict _ _ :=
    recordWriter_logs svc.metered cfg
  have hB := recordWriter_beside svc others cfg
  refine lands_owes_exclusive svc
    ⟨cfg.kind, .reconcile, Transformer.new cfg, fun rs => Reconcile.inWindow rs start.sec stop.sec⟩ _
    (Ledger.Owes.refl o) fun o₁ h₁ => ?_
  exact Lands.bind (lands_owes_fetch svc
    ⟨cfg.kind, .reconcile, Transformer.new cfg, fun rs => Reconcile.inWindow rs start.sec stop.sec⟩ _ h₁)
    fun page o₂ h₂ => lands_owes_reconcileWalk svc ⟨cfg, Transformer.new cfg, _⟩ hW hB start stop g.maxPages
      g.maxPages_pos page 0 o₂ h₂

omit hcfg in
/-- A pass that walks the feed of a kind without a Midgard source fails at once. -/
theorem run_fails_of_no_source {req : PassRequest} {pass : PassName} {keep : List SwapRecord → List SwapRecord}
    (hreq : req.counted = some (kind, pass, keep)) (hnone : g.midgardSource kind = none) :
    (exec (g.run (svc.metered.observed others) req) o).1 = .error (.noMidgardFeed kind) := by
  cases req <;> simp only [PassRequest.counted, reduceCtorEq, Option.some.injEq, Prod.mk.injEq] at hreq <;>
    obtain ⟨rfl, -, -⟩ := hreq <;>
    simp [run, liveTail, backfill, forwardHistory, reconcile, exec_bind, exec_midgard, hnone]

/-- Every pass that walks a Midgard feed owes nothing when it ends well. -/
theorem lands_owes_run {req : PassRequest} {pass : PassName} {keep : List SwapRecord → List SwapRecord}
    (hreq : req.counted = some (kind, pass, keep)) :
    Lands (fun _ => True) (fun o' (_ : Unit) => (⟨kind, pass, Transformer.new cfg, keep⟩ : Ledger).Owes o 0 o') o
      (exec (g.run (svc.metered.observed others) req) o) := by
  cases req with
  | liveTail k =>
    obtain ⟨rfl, rfl, rfl⟩ := by simpa [PassRequest.counted] using hreq
    exact lands_owes_liveTail svc others g hcfg o
  | backfill k =>
    obtain ⟨rfl, rfl, rfl⟩ := by simpa [PassRequest.counted] using hreq
    exact lands_owes_backfill svc others g hcfg o
  | forwardHistory k =>
    obtain ⟨rfl, rfl, rfl⟩ := by simpa [PassRequest.counted] using hreq
    exact lands_owes_forwardHistory svc others g hcfg o
  | reconcile k a b =>
    obtain ⟨rfl, rfl, rfl⟩ := by simpa [PassRequest.counted] using hreq
    exact lands_owes_reconcile svc others g hcfg o ⟨a, 0⟩ ⟨b, 0⟩
  | retryPending k => simp [PassRequest.counted] at hreq
  | syncChainflip => simp [PassRequest.counted] at hreq
  | closingPrice => simp [PassRequest.counted] at hreq

end Passes

/-- The ingestion metrics follow what the passes do. A pass that walks a kind's Midgard feed and
ends well has grown its counters by what the pages it fetched bring: one per page with events,
the page's records that the pass stores (those in the window, for a reconciliation) as stored or
refused, and its rejected events. And every pass, whether it ends well or fails, leaves the gauge
of a kind's pending set in step with the set when it found it so and no other caller tracked ids of
that kind meanwhile, unless an event accepted as pending without id crashed it. -/
theorem ingest_metrics_follow_passes {σ : Type} (svc : Services σ)
    (others : σ × IngestMetrics → List (String × List String)) (g : Ingestor) (req : PassRequest)
    (o : Observed (σ × IngestMetrics)) :
    (∀ kind pass keep o', req.counted = some (kind, pass, keep) →
      exec (g.run (svc.metered.observed others) req) o = (.ok (), o') →
      ∃ cs, o'.calls = o.calls ++ cs ∧
        let P := pagesOf kind cs
        IngestMetrics.counter o'.world.2.pages (kind, pass) =
          IngestMetrics.counter o.world.2.pages (kind, pass) + P.length ∧
        IngestMetrics.counter o'.world.2.loaded (kind, pass) + IngestMetrics.counter o'.world.2.failed (kind, pass) =
          IngestMetrics.counter o.world.2.loaded (kind, pass) + IngestMetrics.counter o.world.2.failed (kind, pass) +
            (P.map fun p => (keep (g.pageRecords kind p)).length).sum ∧
        IngestMetrics.counter o'.world.2.skipped (kind, pass) =
          IngestMetrics.counter o.world.2.skipped (kind, pass) + (P.map (g.pageRejected kind)).sum) ∧
    ∀ k, (∀ w, ∀ t ∈ others w, t.1 ≠ k) → Synced k o →
      Synced k (exec (g.run (svc.metered.observed others) req) o).2 ∨
        ∃ m, (exec (g.run (svc.metered.observed others) req) o).1 = .error (.crash m) := by
  refine ⟨fun kind pass keep o' hreq hrun => ?_, fun k hothers h => run_keeps_gauge svc hothers g req o h⟩
  rcases hcfg : g.midgardSource kind with _ | cfg
  · have hfail := run_fails_of_no_source svc others g o hreq hcfg
    rw [hrun] at hfail
    cases hfail
  obtain ⟨⟨cs, hcs⟩, -, hq⟩ := lands_owes_run svc others g hcfg o hreq
  rw [hrun] at hcs hq
  have hsettle := (hq () rfl).settle hcs
  refine ⟨cs, hcs, ?_⟩
  have hsum := Transformer.sum_pageTally (t := Transformer.new cfg) keep (pagesOf kind cs) fun p hp =>
    items_ne_nil_of_mem_pagesOf hp
  simp only [Ledger.brought, hsum, IngestMetrics.tally, Prod.mk_add_mk, Prod.mk.injEq] at hsettle
  have hrej : g.pageRejected kind = fun p => p.items.countP (Transformer.new cfg).isRejected := by
    funext p
    simp [Ingestor.pageRejected, hcfg]
  simp only [Ingestor.pageRecords, hcfg, hrej]
  exact hsettle

end SwapArchive
