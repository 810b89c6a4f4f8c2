import SwapArchive.Cursor.Basic

/-!
# Progress of the ingestion passes

Every pass reports what it did as it goes: a page taken in, records stored or refused, raw events
dropped as malformed, the size of a source's pending set, a cursor saved. `Progress` is one such
report; its `text` is the one-line form `page <source> <pass>`, `loaded <source> <pass> <n> <m>`,
`skipped <source> <pass> <n>`, `pending_size <source> <n>` or `checkpoint <source> <direction>`.
-/

namespace SwapArchive

/-- The passes that report progress. -/
inductive PassName where
  | liveTail
  | backfill
  | forwardHistory
  | reconcile
  | pendingRetry
  | chainflipSync
  deriving DecidableEq, Repr, Inhabited

namespace PassName

/-- The pass's name in reports. -/
def text : PassName → String
  | .liveTail => "live_tail"
  | .backfill => "backfill"
  | .forwardHistory => "forward_history"
  | .reconcile => "reconcile"
  | .pendingRetry => "pending_retry"
  | .chainflipSync => "chainflip_sync"

end PassName

/-- One progress report of a pass on a source. -/
inductive Progress where
  /-- A non-empty page was taken in. -/
  | pageFetched (source : String) (pass : PassName)
  /-- Records were stored (`loaded`) or refused by the store (`failed`). -/
  | recordsLoaded (source : String) (pass : PassName) (loaded failed : Nat)
  /-- Raw events were dropped as malformed. -/
  | recordsSkipped (source : String) (pass : PassName) (count : Nat)
  /-- The source's pending set now holds `count` ids. -/
  | pendingSize (source : String) (count : Nat)
  /-- A cursor was saved at Unix time `unix`. -/
  | cursorSaved (source : String) (dir : Direction) (unix : Int)
  deriving DecidableEq, Repr

namespace Progress

/-- The one-line form of a report. -/
def text : Progress → String
  | .pageFetched s p => "page " ++ s ++ " " ++ p.text
  | .recordsLoaded s p n m => "loaded " ++ s ++ " " ++ p.text ++ " " ++ toString n ++ " " ++ toString m
  | .recordsSkipped s p n => "skipped " ++ s ++ " " ++ p.text ++ " " ++ toString n
  | .pendingSize s n => "pending_size " ++ s ++ " " ++ toString n
  | .cursorSaved s d _ => "checkpoint " ++ s ++ " " ++ d.text

end Progress

end SwapArchive
