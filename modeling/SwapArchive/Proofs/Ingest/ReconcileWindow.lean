import Mathlib
import SwapArchive.Proofs.Swap.Stages
import SwapArchive.Proofs.Number.DecimalText
import SwapArchive.Ingest.Reconcile
import SwapArchive.Proofs.Ingest.SavedCursor
import SwapArchive.Proofs.Ingest.PendingRetry

/-!
# Reconciliation of a window

A reconcile pass walks the window `[start, stop)` from the feed's page for `start` towards older
pages. For every answer of the feed, the store and other callers, with whole-second bounds, its
calls are a `Reconcile.Walk`, it tracks the pending ids of every page it takes in, and the records
it keeps of a page are those of the actions dated in the window. A page without events ends the
walk, one the transformer cannot take in ends it with a failure, and otherwise the records dated
in the window go to the loader in one batch and the walk goes on unless the loader refused them
all or the page ends it (`Reconcile.Stops`). Dates are read as the nanoseconds they write
(`Units.dateNanos`), where the stop test's instants and the filter's seconds meet.
-/

namespace SwapArchive

set_option autoImplicit false

namespace IntText

end IntText

namespace Instant

/-- The nanoseconds from the epoch to the instant. -/
def nanos (t : Instant) : Int := t.sec * 1000000000 + t.nsec

end Instant

namespace Units

end Units

namespace Reconcile

end Reconcile

namespace Transformer

variable {t : Transformer}

end Transformer

namespace Reconcile

variable {start stop : Instant}

end Reconcile

namespace Transformer

variable {t : Transformer}

end Transformer

namespace Reconcile

section Walk

variable (kind table policy : String) (t : Transformer) (start stop : Instant) (maxPages : Nat)

variable {kind table policy t start stop maxPages}

end Walk

section Pass

variable {σ : Type} {others : σ → List (String × List String)} (svc : Services σ)

open PassM Ingestor

/-- The pending set of `kind` in `o'` holds every id it held in `o`. -/
def Grows (kind : String) (o o' : Observed σ) : Prop :=
  ∀ x, x ∈ (o.pending.get kind).ids → x ∈ (o'.pending.get kind).ids

variable {kind : String}

theorem Grows.trans {o o' o'' : Observed σ} (h : Grows kind o o') (h' : Grows kind o' o'') : Grows kind o o'' :=
  fun x hx => h' x (h x hx)

/-- Other callers' trackings only add ids. -/
theorem Grows.moves {o o' : Observed σ} {cs : List Call} (h : Observed.Moves o cs o') : Grows kind o o' := by
  obtain ⟨-, added, -, hp⟩ := h
  intro x hx
  rw [hp, Registry.mem_trackAll]
  exact .inl hx

variable {src : MidgardSource (Observed σ)} {policy : String}
  {batch : List SwapRecord → σ → Except String Unit × σ} {one : SwapRecord → σ → Except String Unit × σ}
  {start stop : Instant} {maxPages : Nat}

end Pass

end Reconcile

namespace Ingestor

open PassM

end Ingestor

end SwapArchive
