import Mathlib
import SwapArchive.Proofs.Swap.Partition

/-!
# The stages of a settled action

An action marked `success` whose first incoming leg carries a transaction id is read in stages
(`Transformer.transform_of_success`): its instant, its incoming leg, then `Transformer.settle`,
which reads the outgoing legs (`Transformer.shownLegs`) and the stored date and builds the record
(`Transformer.settledRecord`). A record is made exactly when every stage reads, and it is the
record those readings build (`Transformer.transform_record_stages`).
-/

namespace SwapArchive

namespace Transformer

set_option autoImplicit false

/-- The outgoing legs a record shows, read from the action's outgoing legs taken last first. -/
def shownLegs (t : Transformer) : List Leg → Except TransformFault (LegValue × Option LegValue)
  | [] => .error .missingOutData
  | out1 :: outs =>
    match t.readLeg out1 with
    | .error f => .error f
    | .ok primary =>
      match outs with
      | [] => .ok (primary, none)
      | out2 :: _ =>
        match t.readLeg out2 with
        | .error f => .error f
        | .ok second =>
          if primary.asset = t.source.settlementAsset ∧ second.asset ≠ t.source.settlementAsset then
            .ok (second, some primary)
          else .ok (primary, some second)

/-- The record built from the readings of a settled action: its cleaned id, instant, stored date,
incoming leg and outgoing legs, priced when the source enriches and the action carries prices. -/
def settledRecord (t : Transformer) (a : Action) (txId : String) (ts : Instant) (date : String)
    (inLeg primary : LegValue) (second : Option LegValue) : SwapRecord :=
  let rec0 : SwapRecord := {
    txId := txId, timestamp := ts.sec, date := date, time := (Units.displayDateTime ts).2
    inAsset := inLeg.asset, inAmount := inLeg.amount.toFloat, inAmountUsd := none
    inAddress := inLeg.address, outAsset1 := primary.asset
    outAmount1 := primary.amount.toFloat, outAmount1Usd := none
    outAddress1 := primary.address, outAsset2 := second.map (·.asset)
    outAmount2 := second.map (·.amount.toFloat), outAmount2Usd := none
    outAddress2 := second.map (·.address) }
  match t.source.enrich, a.swapMeta with
  | true, some m =>
    { rec0 with inAmountUsd := usdValue inLeg.amount m.inPriceUsd
                outAmount1Usd := usdValue primary.amount m.outPriceUsd }
  | _, _ => rec0

/-- The last stages of `transform`, once the instant and the incoming leg are read: the outgoing
legs, then the stored date, then the record. -/
def settle (t : Transformer) (a : Action) (txId : String) (ts : Instant) (inLeg : LegValue) :
    Except TransformError ActionOutcome :=
  match t.shownLegs a.outLegs.reverse with
  | .error f => .error ⟨t.source.kind, txId, f⟩
  | .ok (p, s) =>
    match Units.sqlDate (Units.displayDateTime ts).1 with
    | .error _ => .error ⟨t.source.kind, txId, .invalidTimestamp⟩
    | .ok date => .ok (.record (t.settledRecord a txId ts date inLeg p s))

section Fields

variable (t : Transformer) (a : Action) (txId : String) (ts : Instant) (date : String)
  (inLeg primary : LegValue) (second : Option LegValue)

/-! Enrichment prices the incoming and the primary leg only; every other field of the record is
the same whether or not it ran. -/

@[simp] theorem settledRecord_txId : (t.settledRecord a txId ts date inLeg primary second).txId = txId := by
  unfold settledRecord; split <;> rfl

@[simp] theorem settledRecord_timestamp :
    (t.settledRecord a txId ts date inLeg primary second).timestamp = ts.sec := by
  unfold settledRecord; split <;> rfl

@[simp] theorem settledRecord_date : (t.settledRecord a txId ts date inLeg primary second).date = date := by
  unfold settledRecord; split <;> rfl

@[simp] theorem settledRecord_time :
    (t.settledRecord a txId ts date inLeg primary second).time = (Units.displayDateTime ts).2 := by
  unfold settledRecord; split <;> rfl

@[simp] theorem settledRecord_outAsset1 :
    (t.settledRecord a txId ts date inLeg primary second).outAsset1 = primary.asset := by
  unfold settledRecord; split <;> rfl

@[simp] theorem settledRecord_outAmount1 :
    (t.settledRecord a txId ts date inLeg primary second).outAmount1 = primary.amount.toFloat := by
  unfold settledRecord; split <;> rfl

@[simp] theorem settledRecord_outAddress1 :
    (t.settledRecord a txId ts date inLeg primary second).outAddress1 = primary.address := by
  unfold settledRecord; split <;> rfl

@[simp] theorem settledRecord_outAsset2 :
    (t.settledRecord a txId ts date inLeg primary second).outAsset2 = second.map (·.asset) := by
  unfold settledRecord; split <;> rfl

@[simp] theorem settledRecord_outAmount2 :
    (t.settledRecord a txId ts date inLeg primary second).outAmount2 = second.map (·.amount.toFloat) := by
  unfold settledRecord; split <;> rfl

@[simp] theorem settledRecord_outAmount2Usd :
    (t.settledRecord a txId ts date inLeg primary second).outAmount2Usd = none := by
  unfold settledRecord; split <;> rfl

@[simp] theorem settledRecord_outAddress2 :
    (t.settledRecord a txId ts date inLeg primary second).outAddress2 = second.map (·.address) := by
  unfold settledRecord; split <;> rfl

end Fields

variable {t : Transformer} {a : Action}

/-- An action marked `success` whose first incoming leg carries an id is read in stages: its
instant, its incoming leg, then `settle`. -/
theorem transform_of_success {first : Leg} {rest : List Leg} {raw : String}
    (hin : a.inLegs = first :: rest) (hid : first.txId = some raw) (hraw : raw ≠ "")
    (hs : a.status = "success") :
    t.transform a = match Units.nanoTimestamp a.date, t.readLeg first with
      | .error _, _ => .error ⟨t.source.kind, Clean.sanitize raw, .invalidTimestamp⟩
      | .ok _, .error f => .error ⟨t.source.kind, Clean.sanitize raw, f⟩
      | .ok ts, .ok inLeg => t.settle a (Clean.sanitize raw) ts inLeg := by
  unfold transform
  simp only [hin, hid, hs, ne_eq, not_true_eq_false, if_false]
  rcases Units.nanoTimestamp a.date with _ | ts
  · rfl
  rcases t.readLeg first with f | inLeg
  · rfl
  dsimp only [settle]
  generalize a.outLegs.reverse = outs
  -- the stored date is read after the legs on both sides: fix it first, so that neither side
  -- has to compute it
  generalize Units.sqlDate (Units.displayDateTime ts).1 = date
  rcases outs with _ | ⟨out1, outs⟩
  · rfl
  dsimp only [shownLegs]
  rcases t.readLeg out1 with f | primary
  · rfl
  dsimp only
  rcases outs with _ | ⟨out2, outs⟩
  · rfl
  dsimp only
  rcases t.readLeg out2 with f | second
  · rfl
  dsimp only
  by_cases hsw : primary.asset = t.source.settlementAsset ∧ second.asset ≠ t.source.settlementAsset
  · simp only [if_pos hsw]
    rfl
  · simp only [if_neg hsw]
    rfl

/-- A record is made only when every stage reads, and it is the record those readings build. -/
theorem transform_record_stages {r : SwapRecord} (h : t.transform a = .ok (.record r)) :
    ∃ first rest raw ts inLeg p s date, a.inLegs = first :: rest ∧ first.txId = some raw ∧ raw ≠ "" ∧
      a.status = "success" ∧ Units.nanoTimestamp a.date = .ok ts ∧ t.readLeg first = .ok inLeg ∧
      t.shownLegs a.outLegs.reverse = .ok (p, s) ∧ Units.sqlDate (Units.displayDateTime ts).1 = .ok date ∧
      r = t.settledRecord a (Clean.sanitize raw) ts date inLeg p s := by
  obtain ⟨first, rest, raw, hin, hid, hraw, hs, -⟩ := transform_record_txId h
  rw [transform_of_success hin hid hraw hs] at h
  rcases hts : Units.nanoTimestamp a.date with _ | ts <;> rcases hl : t.readLeg first with f | inLeg <;>
    simp only [hts, hl] at h
  · cases h
  · cases h
  · cases h
  rcases ho : t.shownLegs a.outLegs.reverse with f | ⟨p, s⟩ <;> simp only [settle, ho] at h
  · cases h
  rcases hd : Units.sqlDate (Units.displayDateTime ts).1 with e | date <;> simp only [hd] at h
  · cases h
  cases h
  exact ⟨first, rest, raw, ts, inLeg, p, s, date, hin, hid, hraw, hs, rfl, hl, rfl, hd, rfl⟩

/-- Reading a leg never rejects for the timestamp. -/
theorem readLeg_ne_invalidTimestamp {l : Leg} {f : TransformFault} (h : t.readLeg l = .error f) :
    f ≠ .invalidTimestamp := by
  rintro rfl
  unfold readLeg at h
  split at h
  · cases h
  split at h
  · cases h
  split at h <;> cases h

/-- Reading the outgoing legs never rejects for the timestamp. -/
theorem shownLegs_ne_invalidTimestamp {legs : List Leg} {f : TransformFault} (h : t.shownLegs legs = .error f) :
    f ≠ .invalidTimestamp := by
  rcases legs with _ | ⟨out1, outs⟩
  · cases h
    decide
  rcases h1 : t.readLeg out1 with f1 | primary <;> simp only [shownLegs, h1] at h
  · cases h
    exact readLeg_ne_invalidTimestamp h1
  rcases outs with _ | ⟨out2, outs⟩
  · cases h
  rcases h2 : t.readLeg out2 with f2 | second <;> simp only [h2] at h
  · cases h
    exact readLeg_ne_invalidTimestamp h2
  split at h <;> cases h

/-- An action is rejected for its timestamp only when its date does not read as nanoseconds, or
when the date shown for its instant does not read back as a stored date. -/
theorem transform_invalidTimestamp {e : TransformError} (h : t.transform a = .error e)
    (hf : e.fault = .invalidTimestamp) :
    (∃ err, Units.nanoTimestamp a.date = .error err) ∨
      ∃ ts err, Units.nanoTimestamp a.date = .ok ts ∧ Units.sqlDate (Units.displayDateTime ts).1 = .error err := by
  rcases hin : a.inLegs with _ | ⟨first, rest⟩
  · unfold transform at h
    simp only [hin] at h
    cases h
    cases hf
  rcases hid : first.txId with _ | raw
  · unfold transform at h
    simp only [hin, hid] at h
    cases h
    cases hf
  by_cases hraw : raw = ""
  · subst hraw
    unfold transform at h
    simp only [hin, hid] at h
    cases h
    cases hf
  by_cases hs : a.status = "success"
  swap
  · rw [transform_of_not_success hin hid hraw hs] at h
    cases h
  rw [transform_of_success hin hid hraw hs] at h
  rcases hts : Units.nanoTimestamp a.date with err | ts
  · exact .inl ⟨err, rfl⟩
  rcases hl : t.readLeg first with f | inLeg <;> simp only [hts, hl] at h
  · cases h
    exact absurd hf (readLeg_ne_invalidTimestamp hl)
  rcases ho : t.shownLegs a.outLegs.reverse with f | ⟨p, s⟩ <;> simp only [settle, ho] at h
  · cases h
    exact absurd hf (shownLegs_ne_invalidTimestamp ho)
  rcases hd : Units.sqlDate (Units.displayDateTime ts).1 with err | date <;> simp only [hd] at h
  · exact .inr ⟨ts, err, rfl, hd⟩
  · cases h

end Transformer

end SwapArchive
