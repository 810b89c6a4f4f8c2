import SwapArchive.Rehearsal.World

/-!
# Running a rehearsal

A rehearsal is set up once (`RehearsalSetup`: scripts, rows and cursors already stored, pending
ids, failing cursor writes) and then runs its steps in order. A step either runs a pass, or
replaces scripts between passes. Each step starts with empty call and report logs; what it
leaves behind is the next step's world.

A rehearsal stops as a whole when an update names a feed that was never set up, or when a pass
crashes.
-/

namespace SwapArchive

/-- What a rehearsal starts from. -/
structure RehearsalSetup where
  feeds : List (String × FeedScript) := []
  swapFeed : Option SwapScript := none
  priceFeed : Option PriceScript := none
  store : StoreScript := {}
  rows : List SwapRecord := []
  rowsTable : String := "native_swaps"
  swapRows : List ChainflipSwap := []
  /-- Saved cursors: source, direction name, cursor. -/
  cursors : List (String × String × String) := []
  failingWrites : List Int := []
  pending : List (String × List String) := []
  reporting : Bool := true
  clock : Instant := ⟨0, 0⟩
  deriving Inhabited

/-- A replacement of scripts between passes. -/
structure ScriptUpdate where
  feeds : List (String × FeedScript) := []
  swapFeed : Option SwapScript := none
  priceFeed : Option PriceScript := none
  store : Option StoreScript := none
  deriving Inhabited

/-- One step of a rehearsal. -/
inductive RehearsalStep where
  /-- Runs a pass; the caller gives up after `giveUpAfter` feed calls, if set; `nested` runs
  before the first feed call. -/
  | pass (req : PassRequest) (giveUpAfter : Option Nat) (nested : Option PassRequest)
  /-- Replaces scripts. -/
  | update (u : ScriptUpdate)

/-- Why a rehearsal stops as a whole. -/
inductive RehearsalError where
  /-- An update names a feed that was never set up. -/
  | unconfigured (feed : String)
  /-- A pass crashed. -/
  | crash (message : String)

namespace RehearsalError

/-- The text of the failure. -/
def message : RehearsalError → String
  | .unconfigured f => "update of unconfigured feed " ++ f
  | .crash m => m

end RehearsalError

/-- What one step did. -/
structure StepOutcome where
  /-- How the step's pass ended (an update always ends well). -/
  result : Except PassError Unit
  /-- For a step with a nested pass: how it ended, none if it never ran. -/
  nested : Option (Option (Except PassError Unit))
  /-- The world after the step. -/
  world : World

namespace World

/-- The world a rehearsal starts in. -/
def ofSetup (s : RehearsalSetup) : World :=
  let records := if s.rows.isEmpty then [] else
    [(s.rowsTable, s.rows.foldl (Rows.put SwapRecord.txId true) [])]
  let swaps := if s.swapRows.isEmpty then [] else
    [("chainflip_swaps", s.swapRows.foldl (Rows.put ChainflipSwap.swapId true) [])]
  let cursors := s.cursors.foldl (fun acc c => Rows.set acc (Cursor.fileName c.1 c.2.1) c.2.2) []
  let registry := s.pending.foldl (fun r e => (r.track e.1 e.2).2) {}
  { feeds := s.feeds, swapFeed := s.swapFeed, priceFeed := s.priceFeed, store := s.store
    records := records, swaps := swaps, cursors := cursors, failingWrites := s.failingWrites
    registry := registry, reporting := s.reporting, clock := s.clock }

/-- Clears the step logs and sets up the caller of the next step. -/
def begin (w : World) (giveUpAfter : Option Nat) (armed : Bool) : World :=
  { w with
    calls := [], reports := [], feedCalls := 0, cancelAfter := giveUpAfter, armed := armed
    nestedResult := none, stepStart := w.clock.sec }

/-- Replaces scripts; a feed that was never set up cannot be replaced. -/
def applyUpdate (w : World) (u : ScriptUpdate) : Except RehearsalError World := do
  let feeds ← u.feeds.foldlM (fun acc e =>
    if (lookupKey e.1 acc).isSome then pure (Rows.set acc e.1 e.2)
    else throw (.unconfigured ("midgard " ++ e.1))) w.feeds
  let swapFeed ← match u.swapFeed, w.swapFeed with
    | none, f => pure f
    | some s, some _ => pure (some s)
    | some _, none => throw (.unconfigured "chainflip")
  let priceFeed ← match u.priceFeed, w.priceFeed with
    | none, f => pure f
    | some p, some _ => pure (some p)
    | some _, none => throw (.unconfigured "prices")
  pure { w with
    feeds := feeds, swapFeed := swapFeed, priceFeed := priceFeed, store := u.store.getD w.store }

/-- The saved cursor files, by name. -/
def cursorFiles (w : World) : List (String × String) :=
  w.cursors.mergeSort (fun a b => decide (a.1 ≤ b.1))

/-- The tables of swap records that hold rows, each ordered by key. -/
def recordTables (w : World) : List (String × List SwapRecord) :=
  w.records.filter fun e => !e.2.isEmpty

/-- The Chainflip tables that hold rows, each ordered by key. -/
def swapTables (w : World) : List (String × List ChainflipSwap) :=
  w.swaps.filter fun e => !e.2.isEmpty

/-- The metrics of every report so far, the time of a cursor save written by `clock`. -/
def metricLines (w : World) (clock : Int → String) : List String :=
  (IngestMetrics.ofProgress w.history).lines clock

end World

namespace Rehearsal

/-- Runs one step. -/
def step (g : Ingestor) (w : World) : RehearsalStep → Except RehearsalError StepOutcome
  | .update u => do
    let w ← (w.begin none false).applyUpdate u
    pure ⟨.ok (), none, w⟩
  | .pass req giveUpAfter nested =>
    let w := w.begin giveUpAfter nested.isSome
    let hook : World → World := match nested with
      | some n => fun v =>
        let (r, v) := ((g.run (World.services false id) n).run).run v
        { v with nestedResult := some r }
      | none => id
    let (r, w) := ((g.run (World.services true hook) req).run).run w
    match r, w.nestedResult with
    | .error (.crash m), _ => .error (.crash m)
    | _, some (.error (.crash m)) => .error (.crash m)
    | _, _ => .ok ⟨r, nested.map (fun _ => w.nestedResult), w⟩

/-- Runs the steps in order from a world. -/
def run (g : Ingestor) : World → List RehearsalStep → Except RehearsalError (List StepOutcome)
  | _, [] => .ok []
  | w, s :: rest => do
    let o ← step g w s
    let os ← run g o.world rest
    pure (o :: os)

end Rehearsal

end SwapArchive
