import SwapArchive.Rehearsal.Script
import SwapArchive.Ingest.Run
import SwapArchive.Ingest.Pending
import SwapArchive.Ingest.Metrics

/-!
# The world of a rehearsal

`World` holds what the passes touch: the scripts, stored rows, cursor files, pending sets, locks,
and the logs of feed calls and progress. `World.services` answers from the scripts, logging each
feed call (`<kind> latest:<key>`, `<kind> prev:<cursor>`, `chainflip swaps:<size>:<offset>`, ...).
An unscripted `latest` time between the step's start and now is asked as `now`. The store refuses
a batch holding a failing row, all or nothing, and the row alone with `forced failure for <key>`;
the newest timestamp is the scripted override or the largest stored. Scripted cursor writes fail
with `disk full` on rename. Before its first feed call a step may run a *nested* pass, as a caller
running at the same time would, and its caller may give up after a number of feed calls.
-/

namespace SwapArchive

/-- Everything a rehearsal's passes touch. -/
structure World where
  feeds : List (String × FeedScript) := []
  swapFeed : Option SwapScript := none
  priceFeed : Option PriceScript := none
  store : StoreScript := {}
  records : List (String × List SwapRecord) := []
  swaps : List (String × List ChainflipSwap) := []
  closing : List ClosingPrice := []
  cursors : List (String × String) := []
  cursorWrites : Nat := 0
  failingWrites : List Int := []
  registry : Registry := {}
  locks : List String := []
  calls : List String := []
  reports : List Progress := []
  history : List Progress := []
  reporting : Bool := true
  clock : Instant := ⟨0, 0⟩
  stepStart : Int := 0
  feedCalls : Nat := 0
  cancelAfter : Option Nat := none
  armed : Bool := false
  nestedResult : Option (Except PassError Unit) := none

namespace World

/-- The policy under which a repeated key replaces the held row. -/
def overwrites (policy : String) : Bool := policy = Source.conflictOverwrite

/-- Logs a feed call, first running the armed hook (at most once). -/
def call (hook : World → World) (w : World) (line : String) : World :=
  let w := if w.armed then hook { w with armed := false } else w
  { w with calls := w.calls ++ [line], feedCalls := w.feedCalls + 1 }

/-- The key a `latest` request is asked under. -/
def latestKey (w : World) (f : FeedScript) (ts : Int) : String :=
  let key := toString ts
  if (lookupKey key f.latest).isSome ∨ (lookupKey ("latest:" ++ key) f.errors).isSome then key
  else if w.stepStart ≤ ts ∧ ts ≤ w.clock.sec then "now"
  else key

/-- Answers a Midgard request from a kind's script. -/
def fetchPage (hook : World → World) (kind : String) (req : PageRequest) (w : World) :
    Except String ActionsPage × World :=
  let f := (lookupKey kind w.feeds).getD {}
  let (name, key, pages) := match req with
    | .latest ts => ("latest", w.latestKey f ts, f.latest)
    | .prev t => ("prev", t, f.prev)
    | .next t => ("next", t, f.next)
    | .byTx id => ("tx", id, f.tx)
  let w := w.call hook (kind ++ " " ++ name ++ ":" ++ key)
  match lookupKey (name ++ ":" ++ key) f.errors with
  | some m => (.error m, w)
  | none => (.ok ((lookupKey key pages).getD ActionsPage.empty), w)

/-- Answers a Chainflip request from the script. -/
def fetchSwaps (hook : World → World) (size offset : Nat) (w : World) :
    Except String SwapRequests × World :=
  let s := w.swapFeed.getD {}
  let key := toString offset
  let w := w.call hook ("chainflip swaps:" ++ toString size ++ ":" ++ key)
  match lookupKey key s.errors with
  | some m => (.error m, w)
  | none => (.ok ((lookupKey key s.pages).getD SwapRequests.empty), w)

/-- Answers a price request from the script. -/
def fetchPrice (hook : World → World) (coin : String) (day : Instant) (w : World) :
    Except String Float × World :=
  let p := w.priceFeed.getD {}
  let midnight := day.nsec = 0 ∧ day.sec % 86400 = 0
  let w := w.call hook ("prices " ++ coin ++ ":midnight_utc=" ++ (if midnight then "true" else "false"))
  if p.error = "" then (.ok p.price, w) else (.error p.error, w)

/-- The newest stored timestamp of a table. -/
def latestTimestamp (table : String) (w : World) : Except String (Option Int) × World :=
  if w.store.latestError ≠ "" then (.error w.store.latestError, w)
  else match lookupKey table w.store.latest with
    | some ts => (.ok (some ts), w)
    | none =>
      let stamps := (Rows.of w.records table).map SwapRecord.timestamp
      (.ok (stamps.foldl (fun acc t => some (match acc with | some a => max a t | none => t)) none), w)

/-- Refuses a batch as the script says: the text of the refusal, if any. -/
def batchRefusal (w : World) (keys : List String) : Option String :=
  if w.store.failBatch ∧ keys ≠ [] then some "batch rejected"
  else match keys.find? (· ∈ w.store.failKeys) with
    | some k => some ("forced failure for " ++ k)
    | none => none

/-- Stores swap records in one batch, all or nothing. -/
def storeRecords (table policy : String) (rs : List SwapRecord) (w : World) :
    Except String Unit × World :=
  match w.batchRefusal (rs.map SwapRecord.txId) with
  | some m => (.error m, w)
  | none =>
    let rows := rs.foldl (Rows.put SwapRecord.txId (overwrites policy)) (Rows.of w.records table)
    (.ok (), { w with records := Rows.set w.records table rows })

/-- Stores one swap record. -/
def storeRecord (table policy : String) (r : SwapRecord) (w : World) : Except String Unit × World :=
  if r.txId ∈ w.store.failKeys then (.error ("forced failure for " ++ r.txId), w)
  else
    let rows := Rows.put SwapRecord.txId (overwrites policy) (Rows.of w.records table) r
    (.ok (), { w with records := Rows.set w.records table rows })

/-- Stores Chainflip swaps in one batch, all or nothing. -/
def storeSwaps (table policy : String) (ss : List ChainflipSwap) (w : World) :
    Except String Unit × World :=
  match w.batchRefusal (ss.map ChainflipSwap.swapId) with
  | some m => (.error m, w)
  | none =>
    let rows := ss.foldl (Rows.put ChainflipSwap.swapId (overwrites policy)) (Rows.of w.swaps table)
    (.ok (), { w with swaps := Rows.set w.swaps table rows })

/-- Stores one Chainflip swap. -/
def storeSwap (table policy : String) (s : ChainflipSwap) (w : World) : Except String Unit × World :=
  if s.swapId ∈ w.store.failKeys then (.error ("forced failure for " ++ s.swapId), w)
  else
    let rows := Rows.put ChainflipSwap.swapId (overwrites policy) (Rows.of w.swaps table) s
    (.ok (), { w with swaps := Rows.set w.swaps table rows })

/-- Which of the ids a Chainflip table holds, each once. -/
def existingSwapIds (table : String) (ids : List String) (w : World) :
    Except String (List String) × World :=
  if w.store.existingError ≠ "" then (.error w.store.existingError, w)
  else
    let held := (Rows.of w.swaps table).map ChainflipSwap.swapId
    (.ok (ids.filter (· ∈ held)).eraseDups, w)

/-- Keeps a closing price, replacing the one of its day and coin. -/
def upsertClosingPrice (p : ClosingPrice) (w : World) : Except String Unit × World :=
  if w.store.upsertError ≠ "" then (.error w.store.upsertError, w)
  else
    let key := fun (c : ClosingPrice) => c.date ++ "/" ++ c.coinId
    (.ok (), { w with closing := Rows.put key true w.closing p })

/-- Reads a cursor file; a missing file reads as empty. -/
def readCursor (source : String) (dir : Direction) (w : World) : Except FileError String × World :=
  if w.store.cursorReadError ≠ "" then
    (.error ⟨source ++ "_" ++ dir.text, "read", w.store.cursorReadError⟩, w)
  else ((.ok ((lookupKey (Cursor.fileName source dir.text) w.cursors).getD "")), w)

/-- Writes a cursor file, unless this write is scripted to fail. -/
def writeCursor (source : String) (dir : Direction) (cursor : String) (w : World) :
    Except FileError Unit × World :=
  let n := w.cursorWrites + 1
  let w := { w with cursorWrites := n }
  if (n : Int) ∈ w.failingWrites then (.error ⟨source ++ "_" ++ dir.text, "rename", "disk full"⟩, w)
  else (.ok (), { w with cursors := Rows.set w.cursors (Cursor.fileName source dir.text) cursor })

/-- Keeps a progress report, if reports are watched. -/
def report (p : Progress) (w : World) : World :=
  if w.reporting then { w with reports := w.reports ++ [p], history := w.history ++ [p] } else w

/-- The services of the world. Feed calls run `hook` before the first of them; `giveUp` says
whether this pass sees the caller giving up. -/
def services (giveUp : Bool) (hook : World → World) : Services World where
  fetchPage := fetchPage hook
  fetchSwaps := fetchSwaps hook
  fetchPrice := fetchPrice hook
  latestTimestamp := latestTimestamp
  storeRecords := storeRecords
  storeRecord := storeRecord
  storeSwaps := storeSwaps
  storeSwap := storeSwap
  existingSwapIds := existingSwapIds
  upsertClosingPrice := upsertClosingPrice
  readCursor := readCursor
  writeCursor := writeCursor
  trackPending := fun kind ids w => { w with registry := (w.registry.track kind ids).2 }
  drainPending := fun kind w =>
    let (ids, r) := w.registry.drain kind
    (ids, { w with registry := r })
  pendingCount := fun kind w => (w.registry.size kind, { w with registry := w.registry.touch kind })
  report := report
  tryLock := fun key w =>
    if key ∈ w.locks then (false, w) else (true, { w with locks := w.locks ++ [key] })
  unlock := fun key w => { w with locks := w.locks.erase key }
  now := fun w => w.clock
  cancelled := fun w => giveUp ∧ w.cancelAfter.any (· ≤ w.feedCalls)

end World

end SwapArchive
