import Mathlib
import SwapArchive.Proofs.Swap.Stages

/-!
# The order of a record's outgoing legs

Midgard lists the outgoing legs of a swap with the settlement leg first. A record shows the last
two, read (`Transformer.shownLegs_pair`): the last first and the one before it second, except that
when only the last pays the settlement asset the two change places. Whenever exactly one of them
pays it, that one is shown second whatever the upstream order, and swapping the two upstream legs
leaves the record as it is (`Transformer.shownLegs_swap`). A record never shows the settlement
asset first and something else second; a single outgoing leg is shown first, with no second. The
settlement asset (`THOR.RUNE` unless the source names one) is compared with the stored name.
-/

namespace SwapArchive

set_option autoImplicit false

namespace LegValue

/-- A leg as a record shows it: asset, amount and address. -/
def shown (v : LegValue) : String × Float × String := (v.asset, v.amount.toFloat, v.address)

end LegValue

namespace SwapRecord

/-- The first outgoing leg a record shows. -/
def outLeg1 (r : SwapRecord) : String × Float × String := (r.outAsset1, r.outAmount1, r.outAddress1)

/-- The second outgoing leg a record shows, when it shows all of its fields. -/
def outLeg2 (r : SwapRecord) : Option (String × Float × String) :=
  match r.outAsset2, r.outAmount2, r.outAddress2 with
  | some asset, some amount, some address => some (asset, amount, address)
  | _, _, _ => none

end SwapRecord

namespace Transformer

/-- A source's transformer settles in the source's settlement asset, `THOR.RUNE` when unset. -/
theorem new_settlementAsset (src : Source) :
    (Transformer.new src).source.settlementAsset =
      if src.settlementAsset = "" then Source.nativeSettlementAsset else src.settlementAsset := rfl

section Legs

variable {t : Transformer} {l₁ l₂ : Leg} {v₁ v₂ : LegValue}

/-- One outgoing leg is shown first, read, and no leg second. -/
theorem shownLegs_singleton {p : LegValue} {s : Option LegValue} :
    t.shownLegs [l₁] = .ok (p, s) ↔ t.readLeg l₁ = .ok p ∧ s = none := by
  simp only [shownLegs]
  cases t.readLeg l₁ with
  | error f => simp
  | ok v => simp [eq_comm]

/-- Of two or more outgoing legs taken last first, the first two are shown, read; they change places
when only the first pays the settlement asset. -/
theorem shownLegs_pair (h₁ : t.readLeg l₁ = .ok v₁) (h₂ : t.readLeg l₂ = .ok v₂) (rest : List Leg) :
    t.shownLegs (l₁ :: l₂ :: rest) =
      .ok (if v₁.asset = t.source.settlementAsset ∧ v₂.asset ≠ t.source.settlementAsset then (v₂, some v₁)
        else (v₁, some v₂)) := by
  simp only [shownLegs, h₁, h₂]
  split <;> rfl

/-- Two or more outgoing legs are shown only when the first two read. -/
theorem readLeg_of_shownLegs_pair {rest : List Leg} {p : LegValue} {s : Option LegValue}
    (h : t.shownLegs (l₁ :: l₂ :: rest) = .ok (p, s)) :
    ∃ v₁ v₂, t.readLeg l₁ = .ok v₁ ∧ t.readLeg l₂ = .ok v₂ := by
  simp only [shownLegs] at h
  cases h₁ : t.readLeg l₁ with
  | error f => simp [h₁] at h
  | ok v₁ =>
    cases h₂ : t.readLeg l₂ with
    | error f => simp [h₁, h₂] at h
    | ok v₂ => exact ⟨v₁, v₂, rfl, rfl⟩

/-- When exactly one of the first two legs pays the settlement asset, their order does not matter:
that one is shown second either way, and the legs after them are never read. -/
theorem shownLegs_swap (h₁ : t.readLeg l₁ = .ok v₁) (h₂ : t.readLeg l₂ = .ok v₂)
    (hone : v₁.asset = t.source.settlementAsset ∧ v₂.asset ≠ t.source.settlementAsset ∨
      v₂.asset = t.source.settlementAsset ∧ v₁.asset ≠ t.source.settlementAsset)
    (rest rest' : List Leg) : t.shownLegs (l₂ :: l₁ :: rest') = t.shownLegs (l₁ :: l₂ :: rest) := by
  rw [shownLegs_pair h₂ h₁, shownLegs_pair h₁ h₂]
  rcases hone with ⟨hs₁, hs₂⟩ | ⟨hs₂, hs₁⟩
  · rw [if_neg (fun h => hs₂ h.1), if_pos ⟨hs₁, hs₂⟩]
  · rw [if_pos ⟨hs₂, hs₁⟩, if_neg (fun h => hs₁ h.1)]

end Legs

section Shown

variable (t : Transformer) (a : Action) (txId : String) (ts : Instant) (date : String)
  (inLeg primary : LegValue) (second : Option LegValue)

@[simp] theorem settledRecord_outLeg1 :
    (t.settledRecord a txId ts date inLeg primary second).outLeg1 = primary.shown := by
  simp [SwapRecord.outLeg1, LegValue.shown]

@[simp] theorem settledRecord_outLeg2 :
    (t.settledRecord a txId ts date inLeg primary second).outLeg2 = second.map LegValue.shown := by
  cases second <;> simp [SwapRecord.outLeg2, LegValue.shown]

@[simp] theorem settledRecord_hasSecondLeg :
    (t.settledRecord a txId ts date inLeg primary second).hasSecondLeg = second.isSome := by
  simp [SwapRecord.hasSecondLeg]

end Shown

variable {t : Transformer} {a : Action}

/-- An action whose outgoing legs are replaced by others that show the same legs makes the same
record. -/
theorem transform_congr_shownLegs {r : SwapRecord} (h : t.transform a = .ok (.record r)) (outs : List Leg)
    (hsame : t.shownLegs outs.reverse = t.shownLegs a.outLegs.reverse) :
    t.transform { a with outLegs := outs } = .ok (.record r) := by
  obtain ⟨first, rest, raw, ts, inLeg, p, s, date, hin, hid, hraw, hs, hts, hl, ho, hd, rfl⟩ :=
    transform_record_stages h
  rw [transform_of_success (a := { a with outLegs := outs }) hin hid hraw hs]
  simp only [hts, hl, settle, hsame, ho, hd]
  rfl

end Transformer

open Transformer in
/-- A record shows the last two outgoing legs of its action, read: the last one first, unless only
the last one pays the settlement asset, in which case the two change places. So when exactly one of
them pays it, that one is shown second whatever the upstream order, and swapping the two leaves the
record as it is; a record showing the settlement asset first shows it second too. A record of an
action with a single outgoing leg shows that leg first and no second leg. -/
theorem transform_out_legs_canonical (src : Source) (a : Action) (r : SwapRecord)
    (h : (Transformer.new src).transform a = .ok (.record r)) :
    let t := Transformer.new src
    let settle := if src.settlementAsset = "" then Source.nativeSettlementAsset else src.settlementAsset
    (∀ l, a.outLegs = [l] → ∃ v, t.readLeg l = .ok v ∧ r.outLeg1 = v.shown ∧ r.hasSecondLeg = false ∧
      r.outAsset2 = none ∧ r.outAmount2 = none ∧ r.outAmount2Usd = none ∧ r.outAddress2 = none) ∧
    (∀ pre l₂ l₁, a.outLegs = pre ++ [l₂, l₁] → ∃ v₁ v₂, t.readLeg l₁ = .ok v₁ ∧ t.readLeg l₂ = .ok v₂ ∧
      r.hasSecondLeg = true ∧
      (v₁.asset = settle ∧ v₂.asset ≠ settle → r.outLeg1 = v₂.shown ∧ r.outLeg2 = some v₁.shown) ∧
      ((v₁.asset = settle → v₂.asset = settle) → r.outLeg1 = v₁.shown ∧ r.outLeg2 = some v₂.shown) ∧
      (r.outAsset1 = settle → r.outAsset2 = some settle) ∧
      (v₁.asset = settle ∧ v₂.asset ≠ settle ∨ v₂.asset = settle ∧ v₁.asset ≠ settle →
        t.transform { a with outLegs := pre ++ [l₁, l₂] } = .ok (.record r))) := by
  intro t settle
  have hsettle : t.source.settlementAsset = settle := new_settlementAsset src
  obtain ⟨first, rest, raw, ts, inLeg, p, s, date, hin, hid, hraw, hs, hts, hl, ho, hd, hr⟩ :=
    transform_record_stages h
  refine ⟨fun l hlegs => ?_, fun pre l₂ l₁ hlegs => ?_⟩
  · rw [hlegs, List.reverse_singleton, shownLegs_singleton] at ho
    obtain ⟨hv, rfl⟩ := ho
    subst hr
    exact ⟨p, hv, by simp⟩
  · have hrev : a.outLegs.reverse = l₁ :: l₂ :: pre.reverse := by simp [hlegs]
    rw [hrev] at ho
    obtain ⟨v₁, v₂, h₁, h₂⟩ := readLeg_of_shownLegs_pair ho
    rw [shownLegs_pair h₁ h₂, hsettle] at ho
    refine ⟨v₁, v₂, h₁, h₂, ?_, fun hsw => ?_, fun hkeep => ?_, fun h1 => ?_, fun hone => ?_⟩
    · subst hr
      split at ho <;> cases ho <;> simp
    · rw [if_pos hsw] at ho
      cases ho
      subst hr
      simp
    · rw [if_neg (fun hsw => hsw.2 (hkeep hsw.1))] at ho
      cases ho
      subst hr
      simp
    · subst hr
      split at ho
      · rename_i hsw
        cases ho
        simp only [settledRecord_outAsset1] at h1
        exact absurd h1 hsw.2
      · rename_i hkeep
        cases ho
        simp only [settledRecord_outAsset1] at h1
        have h2 : v₂.asset = settle := by
          by_contra hne
          exact hkeep ⟨h1, hne⟩
        simp [h2]
    · apply transform_congr_shownLegs h
      have hswapped : (pre ++ [l₁, l₂]).reverse = l₂ :: l₁ :: pre.reverse := by simp
      rw [hswapped, hrev]
      rw [← hsettle] at hone
      exact shownLegs_swap h₁ h₂ hone _ _

/-- A settled swap from bitcoin to ether whose outgoing legs Midgard lists settlement leg first:
the RUNE leg, then the ether leg. -/
def runeFirstSwap : Action where
  date := "1700000000000000000"
  inLegs := [⟨"bc1qsender", [⟨"100000000", "BTC.BTC"⟩], some "A1"⟩]
  outLegs := [⟨"thor1pool", [⟨"5000000000", "THOR.RUNE"⟩], none⟩, ⟨"0xdest", [⟨"2000000000", "ETH.ETH"⟩], none⟩]
  swapMeta := none
  pools := ["BTC.BTC", "ETH.ETH"]
  status := "success"
  type := "swap"

/-- The native source shows the ether leg first and the RUNE leg second, from either upstream
order. -/
theorem rune_leg_shown_second :
    ∃ r, (Transformer.new { kind := Source.native }).transform runeFirstSwap = .ok (.record r) ∧
      r.outLeg1.1 = "ETH.ETH" ∧ r.outLeg2.map Prod.fst = some "THOR.RUNE" ∧
      (Transformer.new { kind := Source.native }).transform
        { runeFirstSwap with outLegs := runeFirstSwap.outLegs.reverse } = .ok (.record r) := by
  let t := Transformer.new { kind := Source.native }
  have hrec : (t.recordOf? runeFirstSwap).isSome = true := by decide +kernel
  have heth : (t.readLeg ⟨"0xdest", [⟨"2000000000", "ETH.ETH"⟩], none⟩).toOption.map (·.asset) = some "ETH.ETH" := by
    decide +kernel
  have hrune : (t.readLeg ⟨"thor1pool", [⟨"5000000000", "THOR.RUNE"⟩], none⟩).toOption.map (·.asset) =
      some "THOR.RUNE" := by
    decide +kernel
  rcases hr : t.recordOf? runeFirstSwap with _ | r
  · rw [hr] at hrec
    cases hrec
  have h := Transformer.recordOf?_eq_some.1 hr
  obtain ⟨-, hpair⟩ := transform_out_legs_canonical { kind := Source.native } runeFirstSwap r h
  obtain ⟨v₁, v₂, h₁, h₂, -, -, hkeep, -, hswap⟩ := hpair [] _ _ rfl
  rw [h₁] at heth
  rw [h₂] at hrune
  simp only [Except.toOption, Option.map_some, Option.some.injEq] at heth hrune
  have hsettle : (if ({ kind := Source.native } : Source).settlementAsset = "" then Source.nativeSettlementAsset
      else ({ kind := Source.native } : Source).settlementAsset) = "THOR.RUNE" := rfl
  rw [hsettle] at hkeep hswap
  obtain ⟨hleg1, hleg2⟩ := hkeep fun _ => hrune
  refine ⟨r, h, ?_, ?_, hswap (.inr ⟨hrune, by rw [heth]; decide⟩)⟩
  · rw [hleg1, LegValue.shown, heth]
  · rw [hleg2, Option.map_some, LegValue.shown, hrune]

end SwapArchive
