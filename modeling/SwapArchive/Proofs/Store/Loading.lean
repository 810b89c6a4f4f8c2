import SwapArchive.Proofs.Store.Statements

/-!
# Loading a batch, and falling back to single rows

A writer stores a batch whole or refuses it whole; `Writer.loadBatch` then stores the rows one by
one. Whatever the store answers, the rows stored and the failures reported add up to the rows
given, each failure naming its row's key and the writer's table, in row order. For the writer of a
store table over a database that keeps what it receives, the batch is one transaction of chunk
inserts (`TxLog`): `begin`, the chunks up to the first refused one, then a rollback after a refusal
or else the commit; unless that commit is acknowledged, each row is then inserted on its own.
-/

namespace SwapArchive

set_option autoImplicit false

/-! ## Accounting, for any writer -/

namespace Writer

variable {σ α : Type}

/-- The failures of inserting rows one by one, given the store's answer to each: one per refused
row, naming its key and the table, in row order. -/
def refusals (key : α → String) (table : String) (xs : List α) (answers : List (Option String)) :
    List DatabaseError :=
  (List.zipWith (fun x a => a.map fun e => (⟨"insert " ++ key x, table, e⟩ : DatabaseError)) xs answers).filterMap id

@[simp] theorem refusals_nil (key : α → String) (table : String) (answers : List (Option String)) :
    refusals key table [] answers = [] := rfl

@[simp] theorem refusals_cons_none (key : α → String) (table : String) (x : α) (xs : List α)
    (answers : List (Option String)) :
    refusals key table (x :: xs) (none :: answers) = refusals key table xs answers := rfl

@[simp] theorem refusals_cons_some (key : α → String) (table : String) (x : α) (xs : List α) (e : String)
    (answers : List (Option String)) :
    refusals key table (x :: xs) (some e :: answers) =
      ⟨"insert " ++ key x, table, e⟩ :: refusals key table xs answers := rfl

/-- One answer per row: the rows taken and the rows refused make up all the rows. -/
theorem count_none_add_length_refusals (key : α → String) (table : String) (xs : List α)
    (answers : List (Option String)) (h : answers.length = xs.length) :
    answers.count none + (refusals key table xs answers).length = xs.length := by
  induction xs generalizing answers with
  | nil => simp_all
  | cons x xs ih =>
    rcases answers with _ | ⟨a, answers⟩
    · simp at h
    have ih' := ih answers (by simpa using h)
    rcases a with _ | e
    · simp only [refusals_cons_none, List.count_cons_self, List.length_cons]
      omega
    · simp only [refusals_cons_some, List.count_cons, List.length_cons, beq_iff_eq, reduceCtorEq,
        if_false, Nat.add_zero]
      omega

/-- The store's answers to rows stored one by one from a world, and the world they leave. -/
def storeEach (w : Writer σ α) : List α → σ → List (Option String) × σ
  | [], s => ([], s)
  | x :: xs, s =>
    (failureOf (w.storeOne x s).1 :: (w.storeEach xs (w.storeOne x s).2).1,
      (w.storeEach xs (w.storeOne x s).2).2)

variable (w : Writer σ α)

@[simp] theorem storeEach_nil (s : σ) : w.storeEach [] s = ([], s) := rfl

theorem storeEach_cons (x : α) (xs : List α) (s : σ) :
    w.storeEach (x :: xs) s =
      (failureOf (w.storeOne x s).1 :: (w.storeEach xs (w.storeOne x s).2).1,
        (w.storeEach xs (w.storeOne x s).2).2) := rfl

/-- One answer per row. -/
theorem length_storeEach (xs : List α) (s : σ) : (w.storeEach xs s).1.length = xs.length := by
  induction xs generalizing s with
  | nil => rfl
  | cons x xs ih => simp [storeEach_cons, ih]

/-- Storing one row answers what the store answered; a refusal names the row's key and the
table. -/
theorem loadOne_run (x : α) (s : σ) :
    (w.loadOne x).run s =
      ((failureOf (w.storeOne x s).1).elim (.ok ()) (fun e => .error ⟨"insert " ++ w.key x, w.table, e⟩),
        (w.storeOne x s).2) := by
  unfold loadOne
  rcases h : w.storeOne x s with ⟨_ | ⟨⟩, s'⟩ <;>
    simp [StateT.run, modifyGet, MonadStateOf.modifyGet, StateT.modifyGet, bind, StateT.bind,
      pure, StateT.pure, h]

/-- Rows stored one by one: as many stored as the store took, and its refusals. -/
theorem loadEach_run (xs : List α) (s : σ) :
    (w.loadEach xs).run s =
      (((w.storeEach xs s).1.count none, refusals w.key w.table xs (w.storeEach xs s).1),
        (w.storeEach xs s).2) := by
  induction xs generalizing s with
  | nil => rfl
  | cons x xs ih =>
    simp only [loadEach, StateT.run_bind, loadOne_run, ih, storeEach_cons]
    rcases (w.storeOne x s).1 with _ | ⟨⟩
    · simp only [failureOf_error, Option.elim_some, refusals_cons_some, List.count_cons, beq_iff_eq,
        reduceCtorEq, if_false, Nat.add_zero]
      rfl
    · simp only [failureOf_ok, Option.elim_none, refusals_cons_none, List.count_cons_self]
      rfl

/-- A batch the store takes is every row stored, with no failure and nothing more done. -/
theorem loadBatch_run_of_ok {xs : List α} (hne : xs ≠ []) {s s' : σ} (h : w.storeBatch xs s = (.ok (), s')) :
    (w.loadBatch xs).run s = ((xs.length, []), s') := by
  have hne' : xs.isEmpty = false := List.isEmpty_eq_false_iff.2 hne
  simp only [loadBatch, hne', Bool.false_eq_true, if_false, StateT.run_bind, StateT.run_modifyGet, h]
  rfl

/-- A batch the store refuses is followed by every row on its own, from where the refusal left. -/
theorem loadBatch_run_of_error {xs : List α} (hne : xs ≠ []) {s s' : σ} {e : String}
    (h : w.storeBatch xs s = (.error e, s')) :
    (w.loadBatch xs).run s = (w.loadEach xs).run s' := by
  have hne' : xs.isEmpty = false := List.isEmpty_eq_false_iff.2 hne
  simp only [loadBatch, hne', Bool.false_eq_true, if_false, StateT.run_bind, StateT.run_modifyGet, h]
  rfl

/-- Stored one by one, the rows stored and the failures reported add up to the rows. -/
theorem loadEach_accounts (xs : List α) (s : σ) :
    ((w.loadEach xs).run s).1.1 + ((w.loadEach xs).run s).1.2.length = xs.length := by
  rw [loadEach_run]
  exact count_none_add_length_refusals _ _ xs _ (length_storeEach w xs s)

/-- Whatever the store answers, the rows stored and the failures reported add up to the rows. -/
theorem loadBatch_accounts (xs : List α) (s : σ) :
    ((w.loadBatch xs).run s).1.1 + ((w.loadBatch xs).run s).1.2.length = xs.length := by
  by_cases hne : xs = []
  · subst hne
    rfl
  rcases h : w.storeBatch xs s with ⟨_ | ⟨⟩, s'⟩
  · rw [loadBatch_run_of_error w hne h]
    exact loadEach_accounts w xs s'
  · rw [loadBatch_run_of_ok w hne h]
    rfl

end Writer

/-! ## Transactions -/

namespace Handle

variable {δ ε : Type} (h : Handle δ) (work : δ → WorkEnd ε × δ) {d d₁ d₂ d₃ : δ}

/-- A transaction that cannot be opened runs no work: its answer is the same for every work. -/
theorem inTx_of_begin_error {e : String} (hb : h.begin d = (.error e, d₁)) :
    h.inTx work d = (.refused ⟨"begin", "", e⟩, d₁) := by
  simp [inTx, hb]

/-- Work that fails is rolled back, and its failure is the answer, unchanged. -/
theorem inTx_of_failed {e : ε} (hb : h.begin d = (.ok (), d₁)) (hw : work d₁ = (.failed e, d₂)) :
    h.inTx work d = (.failed e, h.rollback d₂) := by
  simp [inTx, hb, hw]

/-- Work that panics is rolled back, and the panic goes on. -/
theorem inTx_of_panicked {m : String} (hb : h.begin d = (.ok (), d₁)) (hw : work d₁ = (.panicked m, d₂)) :
    h.inTx work d = (.panicked m, h.rollback d₂) := by
  simp [inTx, hb, hw]

/-- Work that succeeds is committed; a refused commit is the database operation `commit`. -/
theorem inTx_of_commit_error {e : String} (hb : h.begin d = (.ok (), d₁)) (hw : work d₁ = (.done, d₂))
    (hc : h.commit d₂ = (.error e, d₃)) : h.inTx work d = (.refused ⟨"commit", "", e⟩, d₃) := by
  simp [inTx, hb, hw, hc]

theorem inTx_of_commit_ok (hb : h.begin d = (.ok (), d₁)) (hw : work d₁ = (.done, d₂))
    (hc : h.commit d₂ = (.ok (), d₃)) : h.inTx work d = (.committed, d₃) := by
  simp [inTx, hb, hw, hc]

end Handle

/-- What a database receives from a transaction that sends `ss` one after another up to the first
one refused, each with its failure text: the opening refused; or the opening, the statements
before a refused one, that one, and a rollback; or the opening, every statement, and the commit
with its answer. -/
inductive TxLog (ss : List Statement) : Received → Prop
  | beginRefused (e : String) : TxLog ss [(.begin, some e)]
  | rolledBack (pre : List Statement) (s : Statement) (post : List Statement) (e : String) :
      ss = pre ++ s :: post →
      TxLog ss ((.begin, none) :: pre.map (·, none) ++ [(s, some e), (.rollback, none)])
  | committing (answer : Option String) :
      TxLog ss ((.begin, none) :: ss.map (·, none) ++ [(.commit, answer)])

/-! ## Chunks -/

namespace TableStore

variable {α : Type}

/-- The chunks hold the rows, in order. -/
theorem flatten_chunksUpTo (n fuel : Nat) (xs : List α) : (chunksUpTo n fuel xs).flatten = xs := by
  induction fuel generalizing xs with
  | zero => simp [chunksUpTo]
  | succ fuel ih =>
    rw [chunksUpTo]
    split
    · simp
    · simp [ih]

theorem flatten_chunks (n : Nat) (xs : List α) : (chunks n xs).flatten = xs := by
  rw [chunks]
  split
  · simp
  · exact flatten_chunksUpTo n xs.length xs

/-- With enough cuts left, no chunk is longer than `n`. -/
theorem length_le_of_mem_chunksUpTo {n fuel : Nat} {xs ch : List α} (hlen : xs.length ≤ n * (fuel + 1))
    (hch : ch ∈ chunksUpTo n fuel xs) : ch.length ≤ n := by
  induction fuel generalizing xs with
  | zero =>
    simp only [chunksUpTo, List.mem_singleton] at hch
    subst hch
    simpa using hlen
  | succ fuel ih =>
    rw [chunksUpTo] at hch
    split at hch
    · rw [List.mem_singleton.1 hch]
      assumption
    · rcases List.mem_cons.1 hch with rfl | hrest
      · exact List.length_take_le _ _
      · refine ih ?_ hrest
        have hmul : n * (fuel + 1 + 1) = n * (fuel + 1) + n := Nat.mul_succ n (fuel + 1)
        rw [List.length_drop]
        omega

/-- Rows cut into chunks of a positive size leave no chunk empty. -/
theorem ne_nil_of_mem_chunksUpTo {n fuel : Nat} {xs ch : List α} (hn : 0 < n) (hxs : xs ≠ [])
    (hch : ch ∈ chunksUpTo n fuel xs) : ch ≠ [] := by
  induction fuel generalizing xs with
  | zero =>
    simp only [chunksUpTo, List.mem_singleton] at hch
    rwa [hch]
  | succ fuel ih =>
    rw [chunksUpTo] at hch
    split at hch
    · rwa [List.mem_singleton.1 hch]
    · rename_i hlong
      rcases List.mem_cons.1 hch with rfl | hrest
      · rw [Ne, List.take_eq_nil_iff, not_or]
        exact ⟨Nat.pos_iff_ne_zero.1 hn, hxs⟩
      · refine ih ?_ hrest
        rw [Ne, List.drop_eq_nil_iff]
        omega

/-- Rows cut into chunks of a positive size `n`: each chunk holds between one and `n` rows. -/
theorem mem_chunks_bounds {n : Nat} {xs ch : List α} (hn : 0 < n) (hxs : xs ≠ []) (hch : ch ∈ chunks n xs) :
    ch ≠ [] ∧ ch.length ≤ n := by
  rw [chunks, if_neg (Nat.pos_iff_ne_zero.1 hn)] at hch
  refine ⟨ne_nil_of_mem_chunksUpTo hn hxs hch, length_le_of_mem_chunksUpTo ?_ hch⟩
  rw [Nat.mul_succ]
  have := Nat.le_mul_of_pos_left xs.length hn
  omega

end TableStore

/-! ## The writer of a store table, on a database that keeps what it receives -/

namespace Handle

variable {δ : Type} (o : DbOps δ) (d : δ) (log : Received)

/-- A live caller's `begin` reaches the database, which keeps it with its answer. -/
theorem begin_live : ∃ a d', Handle.begin ⟨o.recording, false⟩ (d, log) = (a, d', log ++ [(.begin, failureOf a)]) :=
  ⟨_, _, rfl⟩

/-- A `commit` reaches the database, which keeps it with its answer. -/
theorem commit_live : ∃ a d', Handle.commit ⟨o.recording, false⟩ (d, log) = (a, d', log ++ [(.commit, failureOf a)]) :=
  ⟨_, _, rfl⟩

end Handle

namespace TableStore

variable {δ α : Type} (o : DbOps δ) (l : RowLayout α) (table policy : String)

/-- The insert of some rows into a table under its conflict policy, as the database receives it. -/
def insertStatement (rows : List α) : Statement :=
  .exec (insertOf l (TableRef.ofName l.typeTable table) (conflictUpdates l policy) rows).render.text
    (insertOf l (TableRef.ofName l.typeTable table) (conflictUpdates l policy) rows).render.args

/-- The inserts of a batch: one per chunk. -/
def batchStatements (rs : List α) : List Statement :=
  (chunks batchSize rs).map (insertStatement l table policy)

/-- No insert of a batch is a commit. -/
theorem commit_not_mem_batchStatements (rs : List α) : Statement.commit ∉ batchStatements l table policy rs := by
  simp [batchStatements, insertStatement]

/-- A live caller's insert reaches the database, which keeps it with its answer. -/
theorem insert_live (rows : List α) (d : δ) (log : Received) :
    ∃ a d', insert ⟨o.recording, false⟩ l (TableRef.ofName l.typeTable table) (conflictUpdates l policy) rows (d, log) =
      (a, d', log ++ [(insertStatement l table policy rows, failureOf a)]) :=
  ⟨_, _, rfl⟩

/-- Inserting chunks for a live caller: every chunk goes in, or the chunks before a refused one go
in and that one is refused, and its refusal is the answer. -/
theorem insertChunks_live (chs : List (List α)) (d : δ) (log : Received) :
    (∃ d', insertChunks ⟨o.recording, false⟩ l (TableRef.ofName l.typeTable table) (conflictUpdates l policy) chs
        (d, log) = (.ok (), d', log ++ (chs.map (insertStatement l table policy)).map (·, none))) ∨
    ∃ pre s post e d', chs.map (insertStatement l table policy) = pre ++ s :: post ∧
      insertChunks ⟨o.recording, false⟩ l (TableRef.ofName l.typeTable table) (conflictUpdates l policy) chs (d, log) =
        (.error e, d', log ++ pre.map (·, none) ++ [(s, some e)]) := by
  induction chs generalizing d log with
  | nil => exact .inl ⟨d, by simp [insertChunks]⟩
  | cons ch chs ih =>
    obtain ⟨a, d₁, hins⟩ := insert_live o l table policy ch d log
    rw [insertChunks, hins]
    rcases a with e | ⟨⟩
    · exact .inr ⟨[], _, _, e, d₁, rfl, by simp⟩
    · rcases ih d₁ (log ++ [(insertStatement l table policy ch, none)]) with ⟨d', hok⟩ |
        ⟨pre, s, post, e, d', hss, herr⟩
      · exact .inl ⟨d', by simp [hok]⟩
      · exact .inr ⟨insertStatement l table policy ch :: pre, s, post, e, d', by simp [hss], by simp [herr]⟩

/-- A batch of rows inserted in one transaction, for a live caller: the database receives one
transaction of the batch's inserts, and the batch is taken exactly when its commit was
acknowledged. -/
theorem createInTx_live {rs : List α} (hne : rs ≠ []) (d : δ) (log : Received) :
    ∃ tx d', (createInTx ⟨o.recording, false⟩ l table policy rs (d, log)).2 = (d', log ++ tx) ∧
      TxLog (batchStatements l table policy rs) tx ∧
      ((createInTx ⟨o.recording, false⟩ l table policy rs (d, log)).1 = .ok () ↔ (.commit, none) ∈ tx) := by
  have hne' : rs.isEmpty = false := List.isEmpty_eq_false_iff.2 hne
  have hcommit := commit_not_mem_batchStatements l table policy rs
  obtain ⟨b, d₁, hb⟩ := Handle.begin_live o d log
  rcases b with e | ⟨⟩
  · refine ⟨[(.begin, some e)], d₁, ?_, .beginRefused e, ?_⟩ <;>
      simp [createInTx, Handle.inTx_of_begin_error _ _ hb, txFailure]
  rcases insertChunks_live o l table policy (chunks batchSize rs) d₁ (log ++ [(.begin, none)]) with
    ⟨d₂, hok⟩ | ⟨pre, s, post, e, d₂, hss, herr⟩
  · have hw : asWork (createBatch ⟨o.recording, false⟩ l table policy rs) (d₁, log ++ [(.begin, none)]) =
        (.done, d₂, log ++ [(.begin, none)] ++ (batchStatements l table policy rs).map (·, none)) := by
      simp [asWork, createBatch, hne', hok, batchStatements]
    obtain ⟨a, d₃, hc⟩ := Handle.commit_live o d₂ (log ++ [(.begin, none)] ++
      (batchStatements l table policy rs).map (·, none))
    refine ⟨_, d₃, ?_, .committing (failureOf a), ?_⟩
    · rcases a with e | ⟨⟩
      · simp [createInTx, Handle.inTx_of_commit_error _ _ hb hw hc, txFailure]
      · simp [createInTx, Handle.inTx_of_commit_ok _ _ hb hw hc, txFailure]
    · rcases a with e | ⟨⟩
      · simp [createInTx, Handle.inTx_of_commit_error _ _ hb hw hc, txFailure, hcommit]
      · simp [createInTx, Handle.inTx_of_commit_ok _ _ hb hw hc, txFailure]
  · have hw : asWork (createBatch ⟨o.recording, false⟩ l table policy rs) (d₁, log ++ [(.begin, none)]) =
        (.failed e, d₂, log ++ [(.begin, none)] ++ pre.map (·, none) ++ [(s, some e)]) := by
      simp [asWork, createBatch, hne', herr]
    have hpre : Statement.commit ∉ pre := fun hmem =>
      hcommit (by rw [batchStatements, hss]; exact List.mem_append_left _ hmem)
    refine ⟨_, o.rollback d₂, ?_, .rolledBack pre s post e hss, ?_⟩
    · simp [createInTx, Handle.inTx_of_failed _ _ hb hw, txFailure]
    · simp [createInTx, Handle.inTx_of_failed _ _ hb hw, txFailure, hpre]

/-- Rows inserted one by one for a live caller: each row's insert reaches the database, in row
order, with the answer the writer saw. -/
theorem storeEach_live (key : α → String) (rs : List α) (d : δ) (log : Received) :
    ∃ d', ((writer ⟨o.recording, false⟩ l key table policy).storeEach rs (d, log)).2 =
      (d', log ++ List.zipWith (fun r a => (insertStatement l table policy [r], a)) rs
        ((writer ⟨o.recording, false⟩ l key table policy).storeEach rs (d, log)).1) := by
  induction rs generalizing d log with
  | nil => exact ⟨d, by simp⟩
  | cons r rs ih =>
    obtain ⟨a, d₁, hone⟩ := insert_live o l table policy [r] d log
    obtain ⟨d', hrest⟩ := ih d₁ (log ++ [(insertStatement l table policy [r], failureOf a)])
    have hs : (writer ⟨o.recording, false⟩ l key table policy).storeOne r (d, log) =
        (a, d₁, log ++ [(insertStatement l table policy [r], failureOf a)]) := hone
    refine ⟨d', ?_⟩
    rw [Writer.storeEach_cons, hs]
    simp [hrest]

/-- For a caller that has given up, every row is refused as cancelled and nothing is sent. -/
theorem storeEach_cancelled (key : α → String) (rs : List α) (d : δ) (log : Received) :
    (writer ⟨o.recording, true⟩ l key table policy).storeEach rs (d, log) =
      (rs.map fun _ => some Handle.canceledText, (d, log)) := by
  induction rs with
  | nil => rfl
  | cons r rs ih =>
    have hs : (writer ⟨o.recording, true⟩ l key table policy).storeOne r (d, log) =
        (.error Handle.canceledText, d, log) := rfl
    rw [Writer.storeEach_cons, hs, ih]
    rfl

/-- For a caller that has given up, the batch's transaction is never opened: nothing is sent. -/
theorem createInTx_cancelled (rs : List α) (d : δ) (log : Received) :
    createInTx ⟨o.recording, true⟩ l table policy rs (d, log) =
      (.error (DatabaseError.message ⟨"begin", "", Handle.canceledText⟩), (d, log)) := by
  simp [createInTx, Handle.inTx, Handle.begin, Handle.guard, txFailure]

end TableStore

namespace Writer

variable {α : Type}

/-- Every row refused with one cause: one failure per row, in order. -/
theorem refusals_of_all (key : α → String) (table e : String) (rs : List α) :
    refusals key table rs (rs.map fun _ => some e) = rs.map fun r => ⟨"insert " ++ key r, table, e⟩ := by
  induction rs with
  | nil => rfl
  | cons r rs ih => simp only [List.map_cons, refusals_cons_some, ih]

end Writer

namespace TableStore

variable {δ α : Type} (o : DbOps δ) (l : RowLayout α) (key : α → String) (table policy : String)

/-- Loading a batch for a live caller: the database receives one transaction of the batch's
inserts; then, unless its commit was acknowledged, every row on its own, in order, and each
refusal is reported. -/
theorem loadBatch_live {rs : List α} (hne : rs ≠ []) (d : δ) :
    ∃ (tx singles : Received) (d' : δ),
      (((writer ⟨o.recording, false⟩ l key table policy).loadBatch rs).run (d, [])).2 = (d', tx ++ singles) ∧
      TxLog (batchStatements l table policy rs) tx ∧
      ((.commit, none) ∈ tx →
        (((writer ⟨o.recording, false⟩ l key table policy).loadBatch rs).run (d, [])).1 = (rs.length, []) ∧
          singles = []) ∧
      ((.commit, none) ∉ tx → ∃ answers : List (Option String), answers.length = rs.length ∧
        singles = List.zipWith (fun r a => (insertStatement l table policy [r], a)) rs answers ∧
        (((writer ⟨o.recording, false⟩ l key table policy).loadBatch rs).run (d, [])).1.2 =
          Writer.refusals key table rs answers) := by
  set w := writer ⟨o.recording, false⟩ l key table policy
  obtain ⟨tx, d₁, hstate, htx, hok⟩ := createInTx_live o l table policy hne d []
  rw [List.nil_append] at hstate
  rcases hres : (createInTx ⟨o.recording, false⟩ l table policy rs (d, [])).1 with e | ⟨⟩
  · have hrun := Writer.loadBatch_run_of_error w hne (Prod.ext hres hstate)
    obtain ⟨d', hsingles⟩ := storeEach_live o l table policy key rs d₁ tx
    refine ⟨tx, _, d', by rw [hrun, Writer.loadEach_run]; exact hsingles, htx, fun hmem => ?_,
      fun _ => ⟨_, Writer.length_storeEach w rs (d₁, tx), rfl, by rw [hrun, Writer.loadEach_run]; rfl⟩⟩
    have hcommitted := hok.2 hmem
    rw [hres] at hcommitted
    cases hcommitted
  · have hrun := Writer.loadBatch_run_of_ok w hne (Prod.ext hres hstate)
    exact ⟨tx, [], d₁, by rw [hrun, List.append_nil], htx, fun _ => ⟨by rw [hrun], rfl⟩,
      fun hnot => absurd (hok.1 hres) hnot⟩

/-- Loading a batch for a caller that has given up sends nothing and reports every row as
cancelled. -/
theorem loadBatch_cancelled (rs : List α) (d : δ) :
    ((writer ⟨o.recording, true⟩ l key table policy).loadBatch rs).run (d, []) =
      ((0, rs.map fun r => ⟨"insert " ++ key r, table, Handle.canceledText⟩), d, []) := by
  by_cases hne : rs = []
  · subst hne
    rfl
  rw [Writer.loadBatch_run_of_error _ hne (createInTx_cancelled o l table policy rs d []), Writer.loadEach_run,
    storeEach_cancelled, Writer.refusals_of_all,
    List.count_eq_zero.2 (by simp : none ∉ rs.map fun _ => some Handle.canceledText)]
  rfl

end TableStore

/-! ## Loading a batch -/

/-- Loading a batch of rows into a store table accounts for every row, on any database and for
any caller. The rows stored and the failures reported add up to the rows, and no row means no
statement and nothing reported. For a live caller the database first receives one transaction of
the batch's inserts, in chunks that hold every row in order, between one and 500 rows each. If its
commit is acknowledged, every row is stored and nothing else is sent. Otherwise no commit was
acknowledged, and each row is then inserted on its own, once and in row order, with one failure
per refused row naming its key and the table. A caller that has given up sends nothing and has
every row reported as cancelled. Of a transaction: one that cannot be opened runs no work; work
that fails or panics is rolled back and its failure or panic is the answer; a refused commit is
the database operation `commit`. -/
theorem loadBatch_accounts_for_every_row {δ α : Type} (o : DbOps δ) (l : RowLayout α) (key : α → String)
    (table policy : String) (rs : List α) (d : δ) :
    let load := fun c : Bool => ((TableStore.writer ⟨o.recording, c⟩ l key table policy).loadBatch rs).run (d, [])
    (∀ c, (load c).1.1 + (load c).1.2.length = rs.length) ∧
    (rs = [] → ∀ c, load c = ((0, []), d, [])) ∧
    (rs ≠ [] →
      (∃ (tx singles : Received) (d' : δ), (load false).2 = (d', tx ++ singles) ∧
        TxLog (TableStore.batchStatements l table policy rs) tx ∧
        ((.commit, none) ∈ tx → (load false).1 = (rs.length, []) ∧ singles = []) ∧
        ((.commit, none) ∉ tx → ∃ answers : List (Option String), answers.length = rs.length ∧
          singles = List.zipWith (fun r a => (TableStore.insertStatement l table policy [r], a)) rs answers ∧
          (load false).1.2 = Writer.refusals key table rs answers)) ∧
      (TableStore.chunks TableStore.batchSize rs).flatten = rs ∧
      ∀ ch ∈ TableStore.chunks TableStore.batchSize rs, ch ≠ [] ∧ ch.length ≤ 500) ∧
    load true = ((0, rs.map fun r => ⟨"insert " ++ key r, table, Handle.canceledText⟩), d, []) ∧
    ∀ {δ' ε : Type} (h : Handle δ') (work : δ' → WorkEnd ε × δ') (d₀ d₁ d₂ : δ'),
      (∀ e, h.begin d₀ = (.error e, d₁) →
        ∀ work' : δ' → WorkEnd ε × δ', h.inTx work' d₀ = (.refused ⟨"begin", "", e⟩, d₁)) ∧
      (h.begin d₀ = (.ok (), d₁) →
        (∀ e, work d₁ = (.failed e, d₂) → h.inTx work d₀ = (.failed e, h.rollback d₂)) ∧
        (∀ m, work d₁ = (.panicked m, d₂) → h.inTx work d₀ = (.panicked m, h.rollback d₂)) ∧
        (work d₁ = (.done, d₂) → ∀ e d₃, h.commit d₂ = (.error e, d₃) →
          h.inTx work d₀ = (.refused ⟨"commit", "", e⟩, d₃))) := by
  intro load
  refine ⟨fun c => Writer.loadBatch_accounts _ rs (d, []), ?_,
    fun hne => ⟨TableStore.loadBatch_live o l key table policy hne d, TableStore.flatten_chunks _ rs,
      fun ch hch => TableStore.mem_chunks_bounds (by decide) hne hch⟩,
    TableStore.loadBatch_cancelled o l key table policy rs d, ?_⟩
  · rintro rfl c
    rfl
  · intro δ' ε h work d₀ d₁ d₂
    exact ⟨fun e hb work' => Handle.inTx_of_begin_error h work' hb,
      fun hb => ⟨fun e hw => Handle.inTx_of_failed h work hb hw, fun m hw => Handle.inTx_of_panicked h work hb hw,
        fun hw e d₃ hc => Handle.inTx_of_commit_error h work hb hw hc⟩⟩

/-- A batch of 501 swap records goes to the database in chunks of one to 500 rows. -/
theorem swap_batch_chunks_fit :
    List.replicate 501 (default : SwapRecord) ≠ [] ∧
      ∀ ch ∈ TableStore.chunks TableStore.batchSize (List.replicate 501 (default : SwapRecord)),
        ch ≠ [] ∧ ch.length ≤ 500 :=
  ⟨List.replicate_succ_ne_nil,
    ((loadBatch_accounts_for_every_row ScriptedDb.ops SwapRecord.layout (·.txId) "native_swaps" "ignore"
      (List.replicate 501 default) {}).2.2.1 (List.replicate_succ_ne_nil)).2.2⟩

end SwapArchive
