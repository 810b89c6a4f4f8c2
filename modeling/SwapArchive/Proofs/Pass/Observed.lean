import SwapArchive.Proofs.Pass.Exec
import SwapArchive.Proofs.Pending.Registry

/-!
# Watching a pass

A pass reaches the world only through `Services`. `Services.observed svc others` runs the same
services and keeps beside the world what an observer sees: `calls`, every call to a feed, the store
or the cursor files with its answer, in order; `pending`, the pending sets; and `othersTracked`, the
ids other callers tracked while the pass waited (`others` says which). A statement proved of a pass
run over `svc.observed others` holds whatever the feeds and the store answer and whatever other
callers track meanwhile. `Observed.Moves o cs o'` says `o'` is `o` after the calls `cs`, the pass
having touched no pending set.
-/

namespace SwapArchive

/-- A row handed to the store: a swap record or a Chainflip swap. -/
inductive Row where
  | record (r : SwapRecord)
  | swap (s : ChainflipSwap)

/-- A call a pass made to a feed, the store or the cursor files, with the answer it got. -/
inductive Call where
  /-- A page of a source's Midgard feed. -/
  | page (kind : String) (req : PageRequest) (answer : Except String ActionsPage)
  /-- A page of Chainflip swap requests. -/
  | swapPage (size offset : Nat) (answer : Except String SwapRequests)
  /-- The price of a coin at an instant. -/
  | price (coin : String) (at_ : Instant) (answer : Except String Float)
  /-- The newest timestamp of a table. -/
  | latest (table : String) (answer : Except String (Option Int))
  /-- Rows stored as one batch, all or nothing. -/
  | storeBatch (table policy : String) (rows : List Row) (answer : Except String Unit)
  /-- One row stored on its own. -/
  | storeOne (table policy : String) (row : Row) (answer : Except String Unit)
  /-- Which of some swap ids a table holds. -/
  | existing (table : String) (ids : List String) (answer : Except String (List String))
  /-- A closing price stored. -/
  | upsert (price : ClosingPrice) (answer : Except String Unit)
  /-- A saved cursor read. -/
  | readCursor (kind : String) (dir : Direction) (answer : Except FileError String)
  /-- A cursor saved. -/
  | writeCursor (kind : String) (dir : Direction) (cursor : String) (answer : Except FileError Unit)

/-- A world with what an observer sees of the pass that runs in it. -/
structure Observed (σ : Type) where
  world : σ
  pending : Registry
  calls : List Call
  othersTracked : List (String × List String)

namespace Observed

variable {σ α : Type} (others : σ → List (String × List String))

/-- The observer after a call: the world as the call left it, the call logged, and the ids other
callers tracked meanwhile added to the pending sets. -/
def after (o : Observed σ) (w : σ) (c : Call) : Observed σ :=
  ⟨w, o.pending.trackAll (others w), o.calls ++ [c], o.othersTracked ++ others w⟩

/-- A call that answers with a value, logged. -/
def ask (f : σ → α × σ) (log : α → Call) (o : Observed σ) : α × Observed σ :=
  ((f o.world).1, o.after others (f o.world).2 (log (f o.world).1))

@[simp] theorem after_world (o : Observed σ) (w : σ) (c : Call) : (o.after others w c).world = w := rfl

@[simp] theorem after_calls (o : Observed σ) (w : σ) (c : Call) :
    (o.after others w c).calls = o.calls ++ [c] := rfl

@[simp] theorem after_pending (o : Observed σ) (w : σ) (c : Call) :
    (o.after others w c).pending = o.pending.trackAll (others w) := rfl

@[simp] theorem ask_fst (f : σ → α × σ) (log : α → Call) (o : Observed σ) :
    (ask others f log o).1 = (f o.world).1 := rfl

@[simp] theorem ask_snd (f : σ → α × σ) (log : α → Call) (o : Observed σ) :
    (ask others f log o).2 = o.after others (f o.world).2 (log (f o.world).1) := rfl

/-- `o'` is `o` after the calls `cs`: other callers tracked some ids meanwhile, and the pending
sets changed by those trackings only. -/
def Moves (o : Observed σ) (cs : List Call) (o' : Observed σ) : Prop :=
  o'.calls = o.calls ++ cs ∧
    ∃ added, o'.othersTracked = o.othersTracked ++ added ∧ o'.pending = o.pending.trackAll added

theorem Moves.refl (o : Observed σ) : Moves o [] o :=
  ⟨by simp, [], by simp, by simp [Registry.trackAll]⟩

/-- What the world becomes does not matter to what an observer saw move. -/
theorem Moves.setWorld {o o' : Observed σ} {cs : List Call} (h : Moves o cs o') (w : σ) :
    Moves o cs { o' with world := w } := h

theorem Moves.after (o : Observed σ) (w : σ) (c : Call) : Moves o [c] (o.after others w c) :=
  ⟨rfl, others w, rfl, rfl⟩

theorem Moves.trans {o o' o'' : Observed σ} {cs cs' : List Call} (h : Moves o cs o')
    (h' : Moves o' cs' o'') : Moves o (cs ++ cs') o'' := by
  obtain ⟨hc, a, ha, hp⟩ := h
  obtain ⟨hc', a', ha', hp'⟩ := h'
  refine ⟨by rw [hc', hc, List.append_assoc], a ++ a', by rw [ha', ha, List.append_assoc], ?_⟩
  rw [hp', hp]
  simp [Registry.trackAll, List.foldl_append]

end Observed

variable {σ : Type}

/-- The kind's set holds exactly the non-empty ids other callers tracked: what a drained set
becomes while the pass waits on its calls. -/
def Drained (kind : String) (o : Observed σ) : Prop :=
  ∀ x, x ∈ (o.pending.get kind).ids ↔ x ∈ Registry.idsFor kind o.othersTracked ∧ x ≠ ""

/-- Other callers' trackings keep a drained set drained. -/
theorem Drained.moves {kind : String} {o o' : Observed σ} {cs : List Call} (h : Drained kind o)
    (hm : Observed.Moves o cs o') : Drained kind o' := by
  obtain ⟨-, added, hoth, hpend⟩ := hm
  intro x
  rw [hpend, hoth, Registry.mem_trackAll, h x, Registry.idsFor_append, List.mem_append, or_and_right]

namespace Services

/-- The services of a world, run with an observer beside it. Feed, store and cursor calls are
logged and let other callers track ids; the pending-set operations act on the observer's
registry; locks, reports, the clock and cancellation are the world's. -/
def observed (svc : Services σ) (others : σ → List (String × List String)) :
    Services (Observed σ) where
  fetchPage kind req := Observed.ask others (svc.fetchPage kind req) (.page kind req)
  fetchSwaps size offset := Observed.ask others (svc.fetchSwaps size offset) (.swapPage size offset)
  fetchPrice coin t := Observed.ask others (svc.fetchPrice coin t) (.price coin t)
  latestTimestamp table := Observed.ask others (svc.latestTimestamp table) (.latest table)
  storeRecords table policy rows := Observed.ask others (svc.storeRecords table policy rows)
    (.storeBatch table policy (rows.map .record))
  storeRecord table policy row := Observed.ask others (svc.storeRecord table policy row)
    (.storeOne table policy (.record row))
  storeSwaps table policy rows := Observed.ask others (svc.storeSwaps table policy rows)
    (.storeBatch table policy (rows.map .swap))
  storeSwap table policy row := Observed.ask others (svc.storeSwap table policy row)
    (.storeOne table policy (.swap row))
  existingSwapIds table ids := Observed.ask others (svc.existingSwapIds table ids) (.existing table ids)
  upsertClosingPrice p := Observed.ask others (svc.upsertClosingPrice p) (.upsert p)
  readCursor kind dir := Observed.ask others (svc.readCursor kind dir) (.readCursor kind dir)
  writeCursor kind dir cursor := Observed.ask others (svc.writeCursor kind dir cursor)
    (.writeCursor kind dir cursor)
  trackPending kind ids o := { o with pending := (o.pending.track kind ids).2 }
  drainPending kind o := ((o.pending.drain kind).1, { o with pending := (o.pending.drain kind).2 })
  pendingCount kind o := (o.pending.size kind, { o with pending := o.pending.touch kind })
  report p o := { o with world := svc.report p o.world }
  tryLock key o := ((svc.tryLock key o.world).1, { o with world := (svc.tryLock key o.world).2 })
  unlock key o := { o with world := svc.unlock key o.world }
  now o := svc.now o.world
  cancelled o := svc.cancelled o.world

variable (svc : Services σ) (others : σ → List (String × List String))

theorem observed_fetchSwaps (size offset : Nat) (o : Observed σ) :
    (svc.observed others).fetchSwaps size offset o =
      ((svc.fetchSwaps size offset o.world).1,
        o.after others (svc.fetchSwaps size offset o.world).2
          (.swapPage size offset (svc.fetchSwaps size offset o.world).1)) := rfl

theorem observed_existingSwapIds (table : String) (ids : List String) (o : Observed σ) :
    (svc.observed others).existingSwapIds table ids o =
      ((svc.existingSwapIds table ids o.world).1,
        o.after others (svc.existingSwapIds table ids o.world).2
          (.existing table ids (svc.existingSwapIds table ids o.world).1)) := rfl

/-- Tracking acts on the observer's registry. -/
theorem observed_trackPending (kind : String) (ids : List String) (o : Observed σ) :
    (svc.observed others).trackPending kind ids o = { o with pending := (o.pending.track kind ids).2 } := rfl

/-- Draining hands out the kind's ids from the observer's registry and leaves the set empty. -/
theorem observed_drainPending (kind : String) (o : Observed σ) :
    (svc.observed others).drainPending kind o =
      ((o.pending.get kind).ids, { o with pending := (o.pending.drain kind).2 }) := rfl

/-- Freeing a lock is the world's: the observer sees nothing of it. -/
theorem observed_unlock (key : String) (o : Observed σ) :
    (svc.observed others).unlock key o = { o with world := svc.unlock key o.world } := rfl

end Services

end SwapArchive
