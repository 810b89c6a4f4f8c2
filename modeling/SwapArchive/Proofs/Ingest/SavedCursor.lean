import SwapArchive.Proofs.Pass.Lands

/-!
# The cursors the history walks save

A backfill walks a feed from new to old and saves, after every page, the `prev` cursor to resume
from; a forward walk goes from old to new and saves the `next` cursor. A saved cursor promises a
later run that nothing before it is missing from the store. `SafeCursor` says a cursor saved after
the calls `pre` is the cursor after the first `j` pages taken (`cursorAfter`), whose records
exactly the loaders took, with fewer than `flushEvery` pages taken past it; `BackfillSafe` says so
of every saved cursor, at positions that never go back. `ForwardSafe` says each saved `next`
cursor is the newer-page cursor of a page whose records were taken since. `Gathered` and `Stands`
say where the backfill stands between pages, carried along the walk by induction.
-/

namespace SwapArchive

/-- The cursor after a run of pages walked from `c0`: each page's older-page cursor, or, for a
page without one, the cursor before it. -/
def cursorAfter (c0 : String) (pages : List ActionsPage) : String :=
  pages.foldl (fun c p => if p.prevPageToken = "" then c else p.prevPageToken) c0

theorem cursorAfter_concat (c0 : String) (P : List ActionsPage) (p : ActionsPage) :
    cursorAfter c0 (P ++ [p]) = if p.prevPageToken = "" then cursorAfter c0 P else p.prevPageToken := by
  simp [cursorAfter, List.foldl_append]

namespace Ingestor

/-- A pass takes in at least one page. -/
theorem maxPages_pos (g : Ingestor) : 0 < g.maxPages := by
  unfold maxPages
  split <;> omega

/-- A backfill stores what it gathered after one page at least. -/
theorem flushEvery_pos (g : Ingestor) : 0 < g.flushEvery := by
  unfold flushEvery
  split <;> omega

end Ingestor

section Safety

variable (c0 : String) (flushEvery : Nat) (recs : ActionsPage → List SwapRecord) (kind : String)

/-- A `prev` cursor `v` saved after the calls `pre` is safe at `j`: it is the cursor after the
first `j` pages taken by then, the loaders took exactly the records of those pages, and fewer than
`flushEvery` pages taken lie past it. -/
def SafeCursor (pre : List Call) (j : Nat) (v : String) : Prop :=
  j ≤ (pagesOf kind pre).length ∧ v = cursorAfter c0 ((pagesOf kind pre).take j) ∧
    rowsTaken pre = (((pagesOf kind pre).take j).flatMap recs).map .record ∧
    (pagesOf kind pre).length - j < flushEvery

/-- Every `prev` cursor saved in the calls is safe, and the positions they are safe at never go
back, none of them past `f`. -/
def SavedUpTo (calls : List Call) (f : Nat) : Prop :=
  ∃ js : List Nat, js.Pairwise (· ≤ ·) ∧ (∀ j ∈ js, j ≤ f) ∧
    List.Forall₂ (fun j w => SafeCursor c0 flushEvery recs kind w.1 j w.2) js
      (withPrefixes (Call.savedCursor? kind .prev) calls)

/-- Every `prev` cursor saved in the calls is safe, at positions that never go back. -/
def SavesSafely (calls : List Call) : Prop :=
  ∃ js : List Nat, js.Pairwise (· ≤ ·) ∧
    List.Forall₂ (fun j w => SafeCursor c0 flushEvery recs kind w.1 j w.2) js
      (withPrefixes (Call.savedCursor? kind .prev) calls)

/-- The backfill has taken the pages `P`; the records of the first `f` are what the loaders took,
the others' are gathered in `st`, and the cursors saved so far are safe up to `f`. -/
def Gathered (calls : List Call) (st : Ingestor.BackfillState) (P : List ActionsPage) (f : Nat) : Prop :=
  f ≤ P.length ∧ st.resume = cursorAfter c0 (P.take f) ∧ st.batchPages = P.length - f ∧
    st.batch = (P.drop f).flatMap recs ∧
    calls.foldl Call.takeRows ([], []) = (((P.take f).flatMap recs).map .record, []) ∧
    SavedUpTo c0 flushEvery recs kind calls f

/-- Where the backfill stands between pages: the pages taken are those the feed brought, the
current cursor is the one after them, and fewer than `flushEvery` of them wait to be stored. -/
def Stands (calls : List Call) (st : Ingestor.BackfillState) : Prop :=
  st.current = cursorAfter c0 (pagesOf kind calls) ∧
    ∃ f, Gathered c0 flushEvery recs kind calls st (pagesOf kind calls) f ∧
      (pagesOf kind calls).length - f < flushEvery

variable {c0 flushEvery recs kind}

/-- A log that saves no `prev` cursor saves only safe ones. -/
theorem savesSafely_of_none {calls : List Call} (h : withPrefixes (Call.savedCursor? kind .prev) calls = []) :
    SavesSafely c0 flushEvery recs kind calls :=
  ⟨[], .nil, h ▸ .nil⟩

theorem SavedUpTo.savesSafely {calls : List Call} {f : Nat} (h : SavedUpTo c0 flushEvery recs kind calls f) :
    SavesSafely c0 flushEvery recs kind calls := by
  obtain ⟨js, hmono, _, hsafe⟩ := h
  exact ⟨js, hmono, hsafe⟩

/-- Calls that save no `prev` cursor keep the saved cursors safe, up to any later position. -/
theorem SavedUpTo.append {calls cs : List Call} {f f' : Nat} (h : SavedUpTo c0 flushEvery recs kind calls f)
    (hcs : withPrefixes (Call.savedCursor? kind .prev) cs = []) (hf : f ≤ f') :
    SavedUpTo c0 flushEvery recs kind (calls ++ cs) f' := by
  obtain ⟨js, hmono, hle, hsafe⟩ := h
  refine ⟨js, hmono, fun j hj => (hle j hj).trans hf, ?_⟩
  rwa [withPrefixes_append, hcs, List.map_nil, List.append_nil]

/-- Saving a cursor safe at `f` keeps the saved cursors safe up to `f`. -/
theorem SavedUpTo.save {calls : List Call} {f : Nat} {v : String} {answer : Except FileError Unit}
    (h : SavedUpTo c0 flushEvery recs kind calls f) (hv : SafeCursor c0 flushEvery recs kind calls f v) :
    SavedUpTo c0 flushEvery recs kind (calls ++ [.writeCursor kind .prev v answer]) f := by
  obtain ⟨js, hmono, hle, hsafe⟩ := h
  have hread : Call.savedCursor? kind .prev (.writeCursor kind .prev v answer) = some v := by
    simp [Call.savedCursor?]
  refine ⟨js ++ [f], ?_, ?_, ?_⟩
  · exact List.pairwise_append.2 ⟨hmono, List.pairwise_singleton _ _,
      fun j hj k hk => (List.mem_singleton.1 hk) ▸ hle j hj⟩
  · intro j hj
    rcases List.mem_append.1 hj with hj | hj
    · exact hle j hj
    · exact (List.mem_singleton.1 hj).le
  · rw [withPrefixes_concat, hread]
    exact List.rel_append hsafe (.cons hv .nil)

namespace Gathered

variable {calls : List Call} {st : Ingestor.BackfillState} {P : List ActionsPage} {f : Nat}

theorem savedUpTo (h : Gathered c0 flushEvery recs kind calls st P f) : SavedUpTo c0 flushEvery recs kind calls f :=
  h.2.2.2.2.2

/-- A page call leaves what is gathered as it was. -/
theorem page (h : Gathered c0 flushEvery recs kind calls st P f) (k : String) (req : PageRequest)
    (answer : Except String ActionsPage) : Gathered c0 flushEvery recs kind (calls ++ [.page k req answer]) st P f := by
  obtain ⟨hf, hres, hbp, hb, hfold, hsaved⟩ := h
  exact ⟨hf, hres, hbp, hb, by simp [hfold], hsaved.append rfl le_rfl⟩

/-- Taking in a page gathers its records. -/
theorem take (h : Gathered c0 flushEvery recs kind calls st P f) (p : ActionsPage) :
    Gathered c0 flushEvery recs kind calls
      { st with batch := st.batch ++ recs p, batchPages := st.batchPages + 1 } (P ++ [p]) f := by
  obtain ⟨hf, hres, hbp, hb, hfold, hsaved⟩ := h
  have htake : (P ++ [p]).take f = P.take f := List.take_append_of_le_length hf
  refine ⟨by simp; omega, by rw [htake]; exact hres, by simp; omega, ?_, by rw [htake]; exact hfold, hsaved⟩
  simp [List.drop_append_of_le_length hf, hb]

/-- Storing what is gathered, when the loader took it, leaves nothing gathered and every page
taken stored; the cursor after the pages is then the one to resume from. -/
theorem flush (h : Gathered c0 flushEvery recs kind calls st P f) {cs : List Call} {next : String}
    (hnext : next = cursorAfter c0 P)
    (hrows : ∀ taken, cs.foldl Call.takeRows (taken, []) = (taken ++ st.batch.map .record, []))
    (hsaved : withPrefixes (Call.savedCursor? kind .prev) cs = []) :
    Gathered c0 flushEvery recs kind (calls ++ cs) { st with batch := [], batchPages := 0, resume := next } P
      P.length := by
  obtain ⟨hf, _, _, hb, hfold, hsavedUpTo⟩ := h
  refine ⟨le_rfl, by simpa using hnext, by simp, by simp, ?_, hsavedUpTo.append hsaved hf⟩
  rw [foldl_takeRows_append, hfold, hrows, hb, List.take_length, ← List.map_append, ← List.flatMap_append,
    List.take_append_drop]

/-- The cursor to resume from is safe at the position of the first record not stored. -/
theorem safeCursor (h : Gathered c0 flushEvery recs kind calls st P f) (hP : pagesOf kind calls = P)
    (hlt : P.length - f < flushEvery) : SafeCursor c0 flushEvery recs kind calls f st.resume := by
  obtain ⟨hf, hres, _, _, hfold, _⟩ := h
  subst hP
  exact ⟨hf, hres, by rw [rowsTaken, hfold], hlt⟩

/-- Saving the cursor to resume from keeps what is gathered. -/
theorem save (h : Gathered c0 flushEvery recs kind calls st P f) (hP : pagesOf kind calls = P)
    (hlt : P.length - f < flushEvery) (answer : Except FileError Unit) :
    Gathered c0 flushEvery recs kind (calls ++ [.writeCursor kind .prev st.resume answer]) st P f := by
  have hsafe := h.safeCursor hP hlt
  obtain ⟨hf, hres, hbp, hb, hfold, hsaved⟩ := h
  exact ⟨hf, hres, hbp, hb, by simp [hfold], hsaved.save hsafe⟩

end Gathered

namespace Stands

variable {calls : List Call} {st : Ingestor.BackfillState}

theorem savesSafely (h : Stands c0 flushEvery recs kind calls st) : SavesSafely c0 flushEvery recs kind calls :=
  h.2.choose_spec.1.savedUpTo.savesSafely

/-- A page call that brought no events leaves where the backfill stands. -/
theorem page_quiet (h : Stands c0 flushEvery recs kind calls st) {k : String} {req : PageRequest}
    {answer : Except String ActionsPage} (hq : Quiet [.page k req answer]) :
    Stands c0 flushEvery recs kind (calls ++ [.page k req answer]) st := by
  obtain ⟨hcur, f, hg, hlt⟩ := h
  have hP : pagesOf kind (calls ++ [.page k req answer]) = pagesOf kind calls := by
    rw [pagesOf_append, pagesOf_quiet hq, List.append_nil]
  unfold Stands
  rw [hP]
  exact ⟨hcur, f, hg.page k req answer, hlt⟩

/-- Where a backfill starts: from the cursor read, nothing taken, nothing gathered. -/
theorem start (hfe : 0 < flushEvery) (dir : Direction) (answer : Except FileError String) :
    Stands c0 flushEvery recs kind [.readCursor kind dir answer] ⟨[], 0, c0, c0⟩ := by
  have hP : pagesOf kind [.readCursor kind dir answer] = [] := rfl
  unfold Stands
  rw [hP]
  exact ⟨rfl, 0, ⟨le_rfl, rfl, rfl, rfl, rfl, [], .nil, by simp, .nil⟩, hfe⟩

end Stands

end Safety

section Walk

variable {c0 : String} {flushEvery : Nat} {recs : ActionsPage → List SwapRecord} {kind : String}
  {σ : Type} {others : σ → List (String × List String)} (svc : Services σ)
  {src : MidgardSource (Observed σ)} {policy : String}
  {batch : List SwapRecord → σ → Except String Unit × σ} {one : SwapRecord → σ → Except String Unit × σ}
  {o : Observed σ}

open PassM Ingestor

/-- Storing what is gathered makes quiet calls; when the loader took the records, nothing is left
gathered and the cursor after the pages taken is the one to resume from. -/
theorem lands_flush (hW : src.writer.Logs others .record policy batch one) {st : BackfillState}
    {P : List ActionsPage} {f : Nat} {next : String} (hg : Gathered c0 flushEvery recs kind o.calls st P f)
    (hP : pagesOf kind o.calls = P) (hnext : next = cursorAfter c0 P) :
    Lands (SavesSafely c0 flushEvery recs kind)
      (fun o' st' => st' = { st with batch := [], batchPages := 0, resume := next } ∧
        pagesOf kind o'.calls = P ∧ Gathered c0 flushEvery recs kind o'.calls st' P P.length) o
      (exec (flush (svc.observed others) src st next) o) := by
  unfold flush
  refine Lands.bind (lands_loadBatch svc hW _ _ st.batch fun cs hq =>
    (hg.savedUpTo.append (withPrefixes_quiet hq kind .prev) le_rfl).savesSafely) ?_
  rintro - o' ⟨cs, hcs, hq, hrows⟩
  have hg' := hg.flush hnext hrows (withPrefixes_quiet hq kind .prev)
  rw [← hcs] at hg'
  refine Lands.pure hg'.savedUpTo.savesSafely ⟨rfl, ?_, hg'⟩
  rw [hcs, pagesOf_append, pagesOf_quiet hq, List.append_nil, hP]

/-- Saving the cursor to resume from saves a safe cursor and keeps what is gathered. -/
theorem lands_saveResume {st : BackfillState} {P : List ActionsPage} {f : Nat}
    (hg : Gathered c0 flushEvery recs kind o.calls st P f) (hP : pagesOf kind o.calls = P)
    (hlt : P.length - f < flushEvery) :
    Lands (SavesSafely c0 flushEvery recs kind)
      (fun o' _ => pagesOf kind o'.calls = P ∧ Gathered c0 flushEvery recs kind o'.calls st P f) o
      (exec (saveCursor (svc.observed others) kind .prev st.resume) o) := by
  refine (lands_saveCursor svc kind .prev st.resume fun answer =>
    (hg.save hP hlt answer).savedUpTo.savesSafely).mono ?_
  rintro o' - ⟨answer, hcalls⟩
  rw [hcalls]
  refine ⟨?_, hg.save hP hlt answer⟩
  rw [pagesOf_append, hP]
  simp [pagesOf, Call.pageOf?]

/-- Finishing the backfill from where it stands saves only safe cursors, whatever the store and
the cursor file answer. -/
theorem lands_finishBackfill (hW : src.writer.Logs others .record policy batch one)
    (hk : src.config.kind = kind) (hfe : 0 < flushEvery) {st : BackfillState}
    (hst : Stands c0 flushEvery recs kind o.calls st) :
    Lands (SavesSafely c0 flushEvery recs kind) (fun o' _ => SavesSafely c0 flushEvery recs kind o'.calls) o
      (exec (finishBackfill (svc.observed others) src st) o) := by
  subst hk
  obtain ⟨hcur, f, hg, -⟩ := hst
  unfold finishBackfill
  refine Lands.bind (lands_flush svc hW hg rfl hcur) ?_
  rintro st' o₁ ⟨rfl, hP₁, hg₁⟩
  exact (lands_saveResume svc hg₁ hP₁ (by simpa using hfe)).mono fun o₂ _ h₂ => h₂.2.savedUpTo.savesSafely

/-- The backfill walk entered just after a page was fetched, from where the backfill stood before
that, lands where it stands after the last page it takes in; every cursor it saves on the way,
and on every way out, is safe. The induction is on the pages left; `Stands` carries it. -/
theorem lands_backfillWalk (hW : src.writer.Logs others .record policy batch one)
    (hk : src.config.kind = kind) (hrecs : src.transformer.records = recs) (hfe : 0 < flushEvery)
    (left : Nat) : ∀ (page : ActionsPage) (st : BackfillState) (pre : List Call) (req : PageRequest)
      (o : Observed σ), 0 < left → o.calls = pre ++ [.page kind req (.ok page)] →
      Stands c0 flushEvery recs kind pre st →
      Lands (SavesSafely c0 flushEvery recs kind) (fun o' st' => Stands c0 flushEvery recs kind o'.calls st') o
        (exec (backfillWalk (svc.observed others) src flushEvery left page st) o) := by
  subst hk hrecs
  induction left with
  | zero => intro _ _ _ _ _ hleft; omega
  | succ left ih =>
    intro page st pre req o _ hcalls hst
    rw [backfillWalk]
    by_cases hempty : page.items.isEmpty
    · rw [if_pos hempty]
      have hq : Quiet [.page src.config.kind req (.ok page)] :=
        quiet_page fun p hp => by injection hp with hp; subst hp; simpa using hempty
      have hst' := hst.page_quiet hq
      rw [← hcalls] at hst'
      exact Lands.pure hst'.savesSafely hst'
    rw [if_neg hempty]
    obtain ⟨hcur, f, hg, -⟩ := hst
    have hpages : pagesOf src.config.kind o.calls = pagesOf src.config.kind pre ++ [page] := by
      have hne : page.items ≠ [] := by simpa using hempty
      rw [hcalls, pagesOf_append]
      simp [pagesOf, Call.pageOf?, hne]
    have hg₀ := hg.page src.config.kind req (.ok page)
    rw [← hcalls] at hg₀
    refine Lands.bind (lands_takePage svc src .backfill page hg₀.savedUpTo.savesSafely) ?_
    rintro records o₁ ⟨hcalls₁, rfl⟩
    dsimp only
    rw [exec_ite_bind]
    have hnext : (if page.prevPageToken = "" then st.current else page.prevPageToken) =
        cursorAfter c0 (pagesOf src.config.kind pre ++ [page]) := by
      rw [cursorAfter_concat, hcur]
    have hg₁ := hg₀.take page
    rw [← hcalls₁] at hg₁
    have hP₁ : pagesOf src.config.kind o₁.calls = pagesOf src.config.kind pre ++ [page] := by
      rw [hcalls₁, hpages]
    refine Lands.bind (Q := fun o₂ st₂ => pagesOf src.config.kind o₂.calls = pagesOf src.config.kind pre ++ [page] ∧
      ∃ f', Gathered c0 flushEvery src.transformer.records src.config.kind o₂.calls st₂
        (pagesOf src.config.kind pre ++ [page]) f' ∧ (pagesOf src.config.kind pre ++ [page]).length - f' < flushEvery)
      ?_ ?_
    · rw [exec_ite]
      split
      · exact (lands_flush svc hW hg₁ hP₁ hnext).mono fun o₂ st₂ h₂ => ⟨h₂.2.1, _, h₂.2.2, by simpa using hfe⟩
      · rename_i hfull
        have hbp := hg₁.2.2.1
        refine Lands.pure hg₁.savedUpTo.savesSafely ⟨hP₁, f, hg₁, ?_⟩
        simp only [ge_iff_le, not_le] at hfull hbp
        omega
    rintro st₂ o₂ ⟨hP₂, f', hg₂, hlt₂⟩
    refine Lands.bind (lands_saveResume svc hg₂ hP₂ hlt₂) ?_
    rintro - o₃ ⟨hP₃, hg₃⟩
    rw [exec_bind, exec_get]
    dsimp only
    have hst₃ : Stands c0 flushEvery src.transformer.records src.config.kind o₃.calls
        { st₂ with current := if page.prevPageToken = "" then st.current else page.prevPageToken } := by
      unfold Stands
      rw [hP₃]
      exact ⟨hnext, f', hg₃, hlt₂⟩
    split
    · exact Lands.pure hst₃.savesSafely hst₃
    rename_i hgo
    refine Lands.bind (lands_fetchPage svc _ _ fun answer => (hg₃.page _ _ answer).savedUpTo.savesSafely) ?_
    rintro (m | older) o₄ hcalls₄
    · have hq : ∀ req, Quiet [.page src.config.kind req (.error m)] := fun _ => quiet_page fun _ hp => by cases hp
      refine Lands.bind (lands_finishBackfill svc hW rfl hfe ?_) fun _ o₅ h₅ => Lands.throw h₅
      rw [hcalls₄]
      exact hst₃.page_quiet (hq _)
    · have hleft : left ≠ 0 := fun h => hgo (.inr (.inl h))
      exact ih older _ o₃.calls _ o₄ (Nat.pos_of_ne_zero hleft) hcalls₄ hst₃

/-- What a backfill's log says of the `prev` cursors saved: nothing was called (no Midgard feed,
or another run held the lock), or the saved cursor was read first; the read failed and nothing
followed, or it gave `c0` and every cursor saved after it is safe from `c0`. -/
def BackfillSafe (g : Ingestor) (kind : String) (calls : List Call) : Prop :=
  calls = [] ∨ (∃ e, calls = [.readCursor kind .prev (.error e)]) ∨
    ∃ c0 rest, calls = .readCursor kind .prev (.ok c0) :: rest ∧
      SavesSafely c0 g.flushEvery (g.pageRecords kind) kind calls

/-- After the saved cursor `c0` was read, saving only cursors safe from `c0` keeps the log a
backfill's. -/
theorem BackfillSafe.lands {g : Ingestor} {kind c0 : String} {α : Type} {Q : Observed σ → α → Prop}
    {r : Except PassError α × Observed σ} (ho : o.calls = [.readCursor kind .prev (.ok c0)])
    (h : Lands (SavesSafely c0 g.flushEvery (g.pageRecords kind) kind) Q o r) : Lands (BackfillSafe g kind) Q o r := by
  obtain ⟨⟨cs, hcs⟩, hsafe, hq⟩ := h
  exact ⟨⟨cs, hcs⟩, .inr (.inr ⟨c0, cs, by rw [hcs, ho]; rfl, hsafe⟩), hq⟩

/-- The backfill of a kind, run from a world where nothing was called yet, leaves a backfill's
log: every `prev` cursor it saves is safe from the cursor it read. -/
theorem backfill_backfillSafe (g : Ingestor) (kind : String) (ho : o.calls = []) :
    BackfillSafe g kind (exec (backfill (svc.observed others) g kind) o).2.calls := by
  unfold backfill
  rw [exec_bind, exec_midgard]
  rcases hsrc : g.midgardSource kind with _ | srcCfg
  · exact .inl ho
  dsimp only
  have hcalls₁ : ((svc.observed others).tryLock (lockKey kind .backfill) o).2.calls = [] := ho
  rcases hlock : (svc.observed others).tryLock (lockKey kind .backfill) o with ⟨_ | _, o₁⟩ <;>
    rw [hlock] at hcalls₁
  · rw [exclusive_skip _ hlock]
    exact .inl hcalls₁
  rw [exclusive_taken _ hlock]
  show BackfillSafe g kind (exec _ o₁).2.calls
  have hk := midgardSource_kind hsrc
  have hrecs : (Transformer.new srcCfg).records = g.pageRecords kind := by
    funext p
    simp [pageRecords, hsrc]
  have hfe := g.flushEvery_pos
  refine (Lands.bind (R := fun _ _ => True) (lands_readCursor svc kind .prev fun answer => ?_)
    fun c0 o₂ ho₂ => ?_).2.1
  · rw [hcalls₁]
    rcases answer with e | c0
    · exact .inr (.inl ⟨e, rfl⟩)
    · exact .inr (.inr ⟨c0, [], rfl, savesSafely_of_none rfl⟩)
  rw [hcalls₁, List.nil_append] at ho₂
  refine BackfillSafe.lands (Q := fun _ _ => True) ho₂ ?_
  refine Lands.bind (lands_fetch svc kind _ fun answer => savesSafely_of_none (by rw [ho₂]; rfl)) ?_
  rintro first o₃ hcalls₃
  refine Lands.bind (lands_backfillWalk svc (recordWriter_logs svc srcCfg) hk hrecs hfe g.maxPages first ⟨[], 0, c0, c0⟩ o₂.calls _ o₃
    g.maxPages_pos hcalls₃ (ho₂ ▸ Stands.start hfe .prev (.ok c0))) ?_
  rintro st o₄ hst₄
  exact (lands_finishBackfill svc (recordWriter_logs svc srcCfg) hk hfe hst₄).mono fun _ _ _ => trivial

end Walk

section Forward

variable {recs : ActionsPage → List SwapRecord} {kind : String}

/-- Every `next` cursor saved in the calls is the newer-page cursor of a page with events that the
kind's feed brought, and the calls between that page and the save took exactly its records. -/
def ForwardSafe (recs : ActionsPage → List SwapRecord) (kind : String) (calls : List Call) : Prop :=
  ∀ pv ∈ withPrefixes (Call.savedCursor? kind .next) calls, ∃ before req p after,
    pv.1 = before ++ .page kind req (.ok p) :: after ∧ p.items ≠ [] ∧ pv.2 = p.nextPageToken ∧
      rowsTaken after = (recs p).map .record

namespace ForwardSafe

variable {calls : List Call}

/-- Calls that save no `next` cursor keep the saved ones justified. -/
theorem append (h : ForwardSafe recs kind calls) {cs : List Call}
    (hcs : withPrefixes (Call.savedCursor? kind .next) cs = []) : ForwardSafe recs kind (calls ++ cs) := by
  intro pv hpv
  rw [withPrefixes_append, hcs, List.map_nil, List.append_nil] at hpv
  exact h pv hpv

/-- Saving the newer-page cursor of a page whose records the calls since took keeps the saved
cursors justified. -/
theorem save (h : ForwardSafe recs kind calls) {before after : List Call} {req : PageRequest} {p : ActionsPage}
    (hcalls : calls = before ++ .page kind req (.ok p) :: after) (hp : p.items ≠ [])
    (hrows : rowsTaken after = (recs p).map .record) (answer : Except FileError Unit) :
    ForwardSafe recs kind (calls ++ [.writeCursor kind .next p.nextPageToken answer]) := by
  have hread : Call.savedCursor? kind .next (.writeCursor kind .next p.nextPageToken answer) = some p.nextPageToken := by
    simp [Call.savedCursor?]
  intro pv hpv
  rw [withPrefixes_concat, hread] at hpv
  rcases List.mem_append.1 hpv with hpv | hpv
  · exact h pv hpv
  · rw [List.mem_singleton.1 hpv]
    exact ⟨before, req, p, after, hcalls, hp, rfl, hrows⟩

end ForwardSafe

variable {σ : Type} {others : σ → List (String × List String)} (svc : Services σ)
  {src : MidgardSource (Observed σ)} {policy : String}
  {batch : List SwapRecord → σ → Except String Unit × σ} {one : SwapRecord → σ → Except String Unit × σ}

open PassM Ingestor

/-- The forward walk keeps every saved `next` cursor justified, on every way out. The induction is
on the pages left. -/
theorem lands_forwardWalk (hW : src.writer.Logs others .record policy batch one)
    (hk : src.config.kind = kind) (hrecs : src.transformer.records = recs) (left : Nat) :
    ∀ (cursor : String) (o : Observed σ), ForwardSafe recs kind o.calls →
      Lands (ForwardSafe recs kind) (fun _ _ => True) o (exec (forwardWalk (svc.observed others) src left cursor) o) := by
  subst hk hrecs
  induction left with
  | zero => intro _ o h; exact Lands.pure h trivial
  | succ left ih =>
    intro cursor o h
    rw [forwardWalk, exec_bind, exec_get]
    dsimp only
    split
    · exact Lands.pure h trivial
    refine Lands.bind (lands_fetch svc _ _ fun answer => h.append rfl) ?_
    rintro page o₁ hcalls₁
    have h₁ : ForwardSafe src.transformer.records src.config.kind o₁.calls := hcalls₁ ▸ h.append rfl
    split
    · exact Lands.pure h₁ trivial
    rename_i hempty
    refine Lands.bind (lands_takePage svc src .forwardHistory page h₁) ?_
    rintro records o₂ ⟨hcalls₂, rfl⟩
    have hafter : ∀ cs, o₂.calls ++ cs = o.calls ++ .page src.config.kind (.next cursor) (.ok page) :: cs := by
      intro cs
      rw [hcalls₂, hcalls₁, List.append_assoc, List.singleton_append]
    refine Lands.bind (lands_loadBatch svc hW _ _ _ fun cs hq => ?_) ?_
    · rw [hcalls₂]
      exact h₁.append (withPrefixes_quiet hq _ _)
    rintro - o₃ ⟨cs, hcs, hq, hrows⟩
    have h₃ : ForwardSafe src.transformer.records src.config.kind o₃.calls := by
      rw [hcs, hcalls₂]
      exact h₁.append (withPrefixes_quiet hq _ _)
    split
    · exact Lands.pure h₃ trivial
    have hne : page.items ≠ [] := by simpa using hempty
    have hrows' : rowsTaken cs = (src.transformer.records page).map .record := by
      rw [rowsTaken, hrows]
      rfl
    refine Lands.bind (lands_saveCursor svc _ _ _ fun answer =>
      h₃.save (by rw [hcs, hafter]) hne hrows' answer) ?_
    rintro - o₄ ⟨answer, hcalls₄⟩
    exact ih _ o₄ (hcalls₄ ▸ h₃.save (by rw [hcs, hafter]) hne hrows' answer)

/-- The forward history walk of a kind keeps every saved `next` cursor justified. -/
theorem forwardHistory_forwardSafe (g : Ingestor) (kind : String) (o : Observed σ)
    (ho : ForwardSafe (g.pageRecords kind) kind o.calls) :
    ForwardSafe (g.pageRecords kind) kind (exec (forwardHistory (svc.observed others) g kind) o).2.calls := by
  unfold forwardHistory
  rw [exec_bind, exec_midgard]
  rcases hsrc : g.midgardSource kind with _ | srcCfg
  · exact ho
  dsimp only
  have hcalls₁ : ((svc.observed others).tryLock (lockKey kind .forwardHistory) o).2.calls = o.calls := rfl
  rcases hlock : (svc.observed others).tryLock (lockKey kind .forwardHistory) o with ⟨_ | _, o₁⟩ <;>
    rw [hlock] at hcalls₁ <;> rw [← hcalls₁] at ho
  · rw [exclusive_skip _ hlock]
    exact ho
  rw [exclusive_taken _ hlock]
  show ForwardSafe _ kind (exec _ o₁).2.calls
  have hrecs : (Transformer.new srcCfg).records = g.pageRecords kind := by
    funext p
    simp [pageRecords, hsrc]
  refine (Lands.bind (R := fun _ _ => True) (lands_readCursor svc kind .next fun _ => ho.append rfl)
    fun cursor o₂ ho₂ => ?_).2.1
  exact lands_forwardWalk svc (recordWriter_logs svc srcCfg) (midgardSource_kind hsrc) hrecs g.maxPages cursor o₂
    (ho₂ ▸ ho.append rfl)

end Forward

/-- Whatever the feeds, the store, the cursor files and other callers do, the history walks save
only safe cursors. Every `prev` cursor a backfill saves is the cursor after the first `j` pages
it took in from the cursor it read, the loaders having taken exactly those pages' records, at
positions `j` that never go back and with fewer than `flushEvery` pages taken past it. Every
`next` cursor a forward walk saves is the newer-page cursor of a page whose records the loader
took. -/
theorem history_walks_save_safe_cursors {σ : Type} (svc : Services σ) (others : σ → List (String × List String))
    (g : Ingestor) (kind : String) (w : σ) (reg : Registry) :
    BackfillSafe g kind (PassM.exec (Ingestor.backfill (svc.observed others) g kind) ⟨w, reg, [], []⟩).2.calls ∧
      ForwardSafe (g.pageRecords kind) kind
        (PassM.exec (Ingestor.forwardHistory (svc.observed others) g kind) ⟨w, reg, [], []⟩).2.calls :=
  ⟨backfill_backfillSafe svc g kind rfl, forwardHistory_forwardSafe svc g kind _ fun _ h => by simp at h⟩

end SwapArchive
