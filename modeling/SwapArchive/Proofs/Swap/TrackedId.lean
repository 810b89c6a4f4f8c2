import Mathlib
import SwapArchive.Swap.Chainflip
import SwapArchive.Proofs.Swap.Partition

/-!
# The id a swap is tracked and stored under

A swap in flight is kept in its source's pending set under an id, and dropped by the id of the
row stored once it settles; the two have to be one. The Midgard transformer cleans the transaction
id before either use, so they meet (`Transformer.pending_eq_record_txId`). The Chainflip
transformer reports a node under its native id trimmed, and stores a completed one under that id
trimmed *and cleaned* (`SwapNode.transform_reportedId`). Two nodes of one native id are reported
under one id exactly when both are stored, both are not, or cleaning keeps the trimmed id whole
(`SwapNode.reportedId_eq_iff`); a native id holding a character that cleaning drops, such as the
euro sign, is tracked under one id and stored under another.
-/

namespace SwapArchive

namespace Clean

/-- Cleaning leaves a text as it is exactly when it keeps every character of it. -/
theorem sanitize_eq_self_iff (s : String) : sanitize s = s ↔ ∀ c ∈ s.toList, keeps c = true := by
  rw [← List.filter_eq_self, sanitize]
  constructor
  · intro h
    simpa using congrArg String.toList h
  · intro h
    rw [h, String.ofList_toList]

end Clean

namespace Transformer

variable {t : Transformer} {a : Action}

/-- A pending id is the cleaned transaction id of the action's first incoming leg. -/
theorem transform_pending_id {id : String} (h : t.transform a = .ok (.pending id)) :
    ∃ first rest raw, a.inLegs = first :: rest ∧ first.txId = some raw ∧ raw ≠ "" ∧
      id = Clean.sanitize raw := by
  unfold transform at h
  rcases hin : a.inLegs with _ | ⟨first, rest⟩ <;> simp only [hin] at h
  · cases h
  rcases hid : first.txId with _ | raw <;> simp only [hid] at h
  · cases h
  by_cases hraw : raw = ""
  · subst hraw
    cases h
  refine ⟨first, rest, raw, rfl, hid, hraw, ?_⟩
  simp only at h
  split at h
  · cases h
    rfl
  rcases hts : Units.nanoTimestamp a.date with _ | ts <;> simp only [hts] at h
  · cases h
  rcases hl : t.readLeg first with _ | inLeg <;> simp only [hl] at h
  · cases h
  rcases ho : a.outLegs.reverse with _ | ⟨out1, outs⟩ <;> simp only [ho] at h
  · cases h
  rcases hp : t.readLeg out1 with _ | primary <;> simp only [hp] at h
  · cases h
  split at h
  · cases h
  split at h
  · cases h
  cases h

/-- An action pending under an id and a settled action with the same first incoming transaction
id: the record carries the pending id. -/
theorem pending_eq_record_txId {a' : Action} {id : String} {r : SwapRecord}
    (hsame : (a.inLegs.head?.bind Leg.txId) = (a'.inLegs.head?.bind Leg.txId))
    (h : t.transform a = .ok (.pending id)) (h' : t.transform a' = .ok (.record r)) : id = r.txId := by
  obtain ⟨first, rest, raw, hin, hid, -, rfl⟩ := transform_pending_id h
  obtain ⟨first', rest', raw', hin', hid', -, -, hr⟩ := transform_record_txId h'
  have hraw : raw = raw' := by simpa [hin, hid, hin', hid'] using hsame
  rw [hr, hraw]

end Transformer

namespace NodeOutcome

/-- Does the node become a stored swap? -/
def isStored : NodeOutcome → Bool
  | .swap _ => true
  | _ => false

/-- The id a node is reported under: the stored swap's id, the pending id or the final id. -/
def reportedId : NodeOutcome → String
  | .swap s => s.swapId
  | .pending id => id
  | .final id => id

end NodeOutcome

namespace SwapNode

/-- A node is reported under its native id trimmed, and a stored one under that id cleaned too. -/
theorem transform_reportedId {n : SwapNode} {o : NodeOutcome} (h : n.transform = .ok o) :
    o.reportedId = if o.isStored then Clean.sanitize (Clean.trim n.swapRequestNativeId)
      else Clean.trim n.swapRequestNativeId := by
  unfold transform at h
  by_cases hid : Clean.trim n.swapRequestNativeId = ""
  · simp only [hid, if_true] at h
    cases h
  by_cases hfinal : String.map upperChar (Clean.trim n.status) ∈ terminalStatuses
  · simp only [hid, hfinal, if_true, if_false] at h
    cases h
    rfl
  by_cases hdone : String.map upperChar (Clean.trim n.status) = "COMPLETED"
  swap
  · simp only [hid, hfinal, hdone, if_true, if_false, ne_eq, not_false_eq_true] at h
    cases h
    rfl
  rw [hdone] at hfinal
  simp only [hid, hfinal, hdone, if_false, ne_eq, not_true_eq_false] at h
  split at h
  · cases h
  split at h
  · cases h
  split at h
  · cases h
  split at h
  · cases h
  split at h
  · cases h
  · cases h
  · cases h
    rfl

end SwapNode

namespace SwapNode

/-- Two nodes with one native id are reported under one id exactly when both are stored, both are
not, or cleaning keeps their trimmed native id whole. -/
theorem reportedId_eq_iff {n n' : SwapNode} {o o' : NodeOutcome}
    (hsame : n.swapRequestNativeId = n'.swapRequestNativeId) (h : n.transform = .ok o)
    (h' : n'.transform = .ok o') :
    o.reportedId = o'.reportedId ↔
      o.isStored = o'.isStored ∨ ∀ c ∈ (Clean.trim n.swapRequestNativeId).toList, Clean.keeps c = true := by
  rw [transform_reportedId h, transform_reportedId h', ← hsame, ← Clean.sanitize_eq_self_iff]
  cases o.isStored <;> cases o'.isStored <;> simp [eq_comm]

end SwapNode

/-- When cleaning keeps a native id whole, every two reports of it name one id; and a Midgard
action pending under an id is recorded under that id once an action with its transaction id
settles. -/
theorem reported_ids_meet_of_cleaning_keeps (n n' : SwapNode) (o o' : NodeOutcome)
    (hsame : n.swapRequestNativeId = n'.swapRequestNativeId)
    (hkeeps : ∀ c ∈ (Clean.trim n.swapRequestNativeId).toList, Clean.keeps c = true)
    (h : n.transform = .ok o) (h' : n'.transform = .ok o')
    (t : Transformer) (a a' : Action) (id : String) (r : SwapRecord)
    (hfirst : a.inLegs.head?.bind Leg.txId = a'.inLegs.head?.bind Leg.txId)
    (hpending : t.transform a = .ok (.pending id)) (hrecord : t.transform a' = .ok (.record r)) :
    o.reportedId = o'.reportedId ∧ id = r.txId :=
  ⟨(SwapNode.reportedId_eq_iff hsame h h').2 (.inr hkeeps),
    Transformer.pending_eq_record_txId hfirst hpending hrecord⟩

/-- A swap request whose native id starts with the euro sign, completed. -/
def euroCompleted : SwapNode where
  id := 1
  swapRequestNativeId := "€1"
  sourceAsset := "BTC"
  destAsset := "ETH"
  ingressAmount := some "1.5"
  ingressValueUsd := some "60000"
  egressAmount := some "20"
  egressValueUsd := some "59000"
  destinationAddress := "0xdest"
  refundAddress := some "bc1qrefund"
  status := "COMPLETED"
  isInProgress := false
  startedBlockTimestamp := some "2024-01-01T00:00:00Z"
  completedBlockTimestamp := some "2024-01-01T00:05:00Z"

/-- The same request while in flight. -/
def euroInFlight : SwapNode := { euroCompleted with status := "PENDING", isInProgress := true }

/-- The in-flight request is pending under `€1`, and the completed one is stored under `1`: the
sync never finds the pending id among the ids it stores. -/
theorem euro_native_id_tracked_apart :
    (euroInFlight.transform.toOption.map NodeOutcome.reportedId = some "€1") ∧
    (euroCompleted.transform.toOption.map NodeOutcome.reportedId = some "1") := by
  constructor <;> decide +kernel

/-- The request with a plain native id, in flight. -/
def plainInFlight : SwapNode := { euroInFlight with swapRequestNativeId := "10" }

/-- The request with a plain native id, completed. -/
def plainCompleted : SwapNode := { euroCompleted with swapRequestNativeId := "10" }

/-- A Midgard swap with a plain transaction id, still pending. -/
def plainPending : Action := { euroPending with inLegs := [⟨"bc1qsender", [⟨"100000000", "BTC.BTC"⟩], some "A1"⟩] }

/-- The same swap settled. -/
def plainSettled : Action := { plainPending with status := "success" }

/-- The plain native id `10` is reported under one id in flight and completed, and the Midgard swap
pending under `A1` is recorded under `A1`. -/
theorem plain_ids_meet :
    ∃ o o' r, plainInFlight.transform = .ok o ∧ plainCompleted.transform = .ok o' ∧
      (Transformer.new { kind := Source.native }).transform plainSettled = .ok (.record r) ∧
      o.reportedId = o'.reportedId ∧ "A1" = r.txId := by
  have hkeeps : ∀ c ∈ (Clean.trim plainInFlight.swapRequestNativeId).toList, Clean.keeps c = true := by
    rw [show (Clean.trim plainInFlight.swapRequestNativeId).toList = ['1', '0'] by decide +kernel]
    intro c hc
    simp only [List.mem_cons, List.not_mem_nil, or_false] at hc
    rcases hc with rfl | rfl <;> rfl
  have hpend : (Transformer.new { kind := Source.native }).transform plainPending = .ok (.pending "A1") := by
    rw [Transformer.transform_of_not_success rfl rfl (by decide) (by decide),
      show Clean.sanitize "A1" = "A1" by decide +kernel]
  have hin : plainInFlight.transform.toOption.isSome = true := by decide +kernel
  have hdone : plainCompleted.transform.toOption.isSome = true := by decide +kernel
  have hrec : ((Transformer.new { kind := Source.native }).recordOf? plainSettled).isSome = true := by
    decide +kernel
  rcases h : plainInFlight.transform with e | o
  · rw [h] at hin
    cases hin
  rcases h' : plainCompleted.transform with e | o'
  · rw [h'] at hdone
    cases hdone
  rcases hr : (Transformer.new { kind := Source.native }).recordOf? plainSettled with _ | r
  · rw [hr] at hrec
    cases hrec
  have hr' := Transformer.recordOf?_eq_some.1 hr
  exact ⟨o, o', r, rfl, rfl, hr', reported_ids_meet_of_cleaning_keeps plainInFlight plainCompleted o o' rfl hkeeps
    h h' _ plainPending plainSettled "A1" r rfl hpend hr'⟩

end SwapArchive
