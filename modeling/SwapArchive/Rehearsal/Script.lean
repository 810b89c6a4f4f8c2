import SwapArchive.Swap.Action
import SwapArchive.Swap.Chainflip
import SwapArchive.Swap.Record

/-!
# Scripts of a rehearsal

A rehearsal runs the passes against feeds and a store that answer from scripts chosen in advance.
A `FeedScript` gives a Midgard feed's pages by key (the Unix time of `latest`, the cursor of
`prev` or `next`, the id of `tx`), a failure keyed `<request>:<key>` winning over a page; a
`SwapScript` gives Chainflip pages and failures by offset; a `PriceScript` the one price or its
failure; a `StoreScript` names failing rows, a refusal of every batch, failing reads, and
overrides of the newest stored timestamp. `Rows.put` keeps a table's rows ordered by key; a held
key's row is replaced only under the `overwrite` policy.
-/

namespace SwapArchive

/-- The value of a key in an association list, the first entry counting. -/
def lookupKey {α : Type} (key : String) (xs : List (String × α)) : Option α :=
  (xs.find? fun e => e.1 = key).map Prod.snd

/-- A scripted Midgard feed. -/
structure FeedScript where
  latest : List (String × ActionsPage) := []
  prev : List (String × ActionsPage) := []
  next : List (String × ActionsPage) := []
  tx : List (String × ActionsPage) := []
  errors : List (String × String) := []
  deriving Inhabited

/-- A scripted Chainflip explorer: pages and failures by offset. -/
structure SwapScript where
  pages : List (String × SwapRequests) := []
  errors : List (String × String) := []
  deriving Inhabited

/-- A scripted price feed: the price it answers, or, when `error` is not empty, its failure. -/
structure PriceScript where
  price : Float := 0
  error : String := ""
  deriving Inhabited

/-- The failures and overrides of a scripted store. -/
structure StoreScript where
  failKeys : List String := []
  failBatch : Bool := false
  latest : List (String × Int) := []
  latestError : String := ""
  existingError : String := ""
  upsertError : String := ""
  cursorReadError : String := ""
  deriving Inhabited

/-- The page a feed answers for a key it has no page for. -/
def ActionsPage.empty : ActionsPage := ⟨some [], "", ""⟩

/-- The page the explorer answers for an offset it has no page for. -/
def SwapRequests.empty : SwapRequests := ⟨⟨false, "", false, ""⟩, [], 0⟩

namespace Rows

variable {α : Type}

/-- Puts a row into rows ordered by key. A held key is replaced only when `overwrite` holds. -/
def put (key : α → String) (overwrite : Bool) : List α → α → List α
  | [], r => [r]
  | x :: xs, r =>
    if key r < key x then r :: x :: xs
    else if key r = key x then (if overwrite then r :: xs else x :: xs)
    else x :: put key overwrite xs r

/-- The rows of a table, none if the table is unknown. -/
def of (tables : List (String × List α)) (table : String) : List α :=
  (lookupKey table tables).getD []

/-- Replaces the value under a name, adding the name if need be. -/
def set {β : Type} (entries : List (String × β)) (name : String) (v : β) : List (String × β) :=
  if entries.any (fun e => e.1 = name) then
    entries.map fun e => if e.1 = name then (name, v) else e
  else entries ++ [(name, v)]

end Rows

end SwapArchive
