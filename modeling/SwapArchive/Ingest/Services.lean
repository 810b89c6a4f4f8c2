import SwapArchive.Swap.Action
import SwapArchive.Swap.Chainflip
import SwapArchive.Swap.Record
import SwapArchive.Feed.Failure
import SwapArchive.Cursor.Basic
import SwapArchive.Ingest.Progress
import SwapArchive.Text.Quoted

/-!
# What a pass asks of the world

An ingestion pass reads remote feeds, writes the store and its cursors, keeps pending sets and
reports progress. `Services σ` lists each of these as a transition of a world `σ`: any behaviour
of the feeds and the store, failures included, is some choice of these functions, so what is
proved of a pass over every `Services σ` holds whatever the world does.

A pass runs in `PassM σ`: it changes the world and may end with a `PassError`.
-/

namespace SwapArchive

/-- Which page of a Midgard feed a pass asks for. -/
inductive PageRequest where
  /-- The newest page of events at or after a Unix time. -/
  | latest (fromUnix : Int)
  /-- The page older than a cursor. -/
  | prev (token : String)
  /-- The page newer than a cursor. -/
  | next (token : String)
  /-- The events of one transaction. -/
  | byTx (id : String)
  deriving DecidableEq, Repr

/-- The world as a pass sees it. Feeds answer with a page or the text of a failure; the store
answers with the text of a failure; cursor files fail with a `FileError`. -/
structure Services (σ : Type) where
  /-- A page of a source's Midgard feed. -/
  fetchPage : String → PageRequest → σ → Except String ActionsPage × σ
  /-- A page of Chainflip swap requests: page size and offset. -/
  fetchSwaps : Nat → Nat → σ → Except String SwapRequests × σ
  /-- The USD price of a coin at an instant. -/
  fetchPrice : String → Instant → σ → Except String Float × σ
  /-- The newest timestamp stored in a table, if it has rows. -/
  latestTimestamp : String → σ → Except String (Option Int) × σ
  /-- Stores swap records in one batch, all or nothing: table, conflict policy, rows. -/
  storeRecords : String → String → List SwapRecord → σ → Except String Unit × σ
  /-- Stores one swap record: table, conflict policy, row. -/
  storeRecord : String → String → SwapRecord → σ → Except String Unit × σ
  /-- Stores Chainflip swaps in one batch, all or nothing. -/
  storeSwaps : String → String → List ChainflipSwap → σ → Except String Unit × σ
  /-- Stores one Chainflip swap. -/
  storeSwap : String → String → ChainflipSwap → σ → Except String Unit × σ
  /-- Which of the given swap ids a table holds, each once. -/
  existingSwapIds : String → List String → σ → Except String (List String) × σ
  /-- Stores a closing price, replacing one of the same day and coin. -/
  upsertClosingPrice : ClosingPrice → σ → Except String Unit × σ
  /-- The saved cursor of a source and direction, empty if none. -/
  readCursor : String → Direction → σ → Except FileError String × σ
  /-- Saves the cursor of a source and direction. -/
  writeCursor : String → Direction → String → σ → Except FileError Unit × σ
  /-- Adds ids to a kind's pending set (creating the set if need be). -/
  trackPending : String → List String → σ → σ
  /-- Takes every id out of a kind's pending set. -/
  drainPending : String → σ → List String × σ
  /-- The size of a kind's pending set. -/
  pendingCount : String → σ → Nat × σ
  /-- Hands a progress report to whoever watches. -/
  report : Progress → σ → σ
  /-- Takes a named lock if it is free; the answer says whether it was taken. -/
  tryLock : String → σ → Bool × σ
  /-- Frees a named lock. -/
  unlock : String → σ → σ
  /-- The current time. -/
  now : σ → Instant
  /-- Has the caller given up on the pass? -/
  cancelled : σ → Bool

/-- Why a pass ended early. -/
inductive PassError where
  /-- A feed failed; the text is the feed's. -/
  | remote (message : String)
  /-- The store failed. -/
  | database (e : DatabaseError)
  /-- A cursor file failed. -/
  | cursor (e : FileError)
  /-- No Midgard feed serves the source kind. -/
  | noMidgardFeed (kind : String)
  /-- Chainflip has no feed or no table. -/
  | noChainflipSource
  /-- No price feed is set up. -/
  | noPriceFeed
  /-- The pass met a state it cannot go on from. -/
  | crash (message : String)
  deriving Repr

namespace PassError

/-- The text of the failure. -/
def message : PassError → String
  | .remote m => m
  | .database e => e.message
  | .cursor e => e.message
  | .noMidgardFeed k => "no midgard feed configured for source " ++ Quoted.quote k
  | .noChainflipSource => "chainflip source is not configured"
  | .noPriceFeed => "price feed is not configured"
  | .crash m => m

end PassError

/-- A pass: it changes the world `σ` and may end with a `PassError`. -/
abbrev PassM (σ : Type) := ExceptT PassError (StateM σ)

namespace PassM

variable {σ α ε : Type}

/-- Runs a transition of the world. -/
def perform (f : σ → α × σ) : PassM σ α := modifyGet f

/-- Runs a transition that may fail; a failure ends the pass as `wrap` says. -/
def attempt (f : σ → Except ε α × σ) (wrap : ε → PassError) : PassM σ α := do
  match ← perform f with
  | .ok a => pure a
  | .error e => throw (wrap e)

/-- Runs `body`, then `cleanup` whether or not `body` failed; `body`'s outcome stands. -/
def always (body : PassM σ α) (cleanup : PassM σ Unit) : PassM σ α := do
  let r ← ExceptT.lift (ExceptT.run body)
  cleanup
  match r with
  | .ok a => pure a
  | .error e => throw e

/-- Runs `body` holding the lock `key`; if another holder has it, does nothing. -/
def exclusive (svc : Services σ) (key : String) (body : PassM σ Unit) : PassM σ Unit := do
  if ← perform (svc.tryLock key) then always body (modify (svc.unlock key)) else pure ()

/-- Reports progress. -/
def report (svc : Services σ) (p : Progress) : PassM σ Unit := modify (svc.report p)

end PassM

end SwapArchive
