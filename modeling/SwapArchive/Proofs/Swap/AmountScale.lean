import Mathlib
import SwapArchive.Proofs.Swap.Stages

/-!
# The scale of a record's amounts

A source that states no decimals (`0`) is read with THORChain's eight (`Source.amountDecimals`).
Every amount a record shows is its leg's first coin amount, trimmed, read exactly and moved that
many places to the left (`Leg.ScaledAmount`), then turned into the nearest double. With enrichment
on, the incoming amount and the first outgoing one, after the outgoing legs are put in order, are
priced at the metadata's USD prices where those read; nothing else is (`PricedAt`). So a source
that states `0` decimals is not read in base units, although the configuration check admits `0`.
The point moves on a 32-bit exponent, so an amount is exact where the moved exponent stays in
range (`Action.ExponentsClear`); one near `-2^31` wraps around to a huge one.
-/

namespace SwapArchive

set_option autoImplicit false

namespace Decimal

theorem fits32_iff {x : Int} : fits32 x = true ↔ -2 ^ 31 ≤ x ∧ x < 2 ^ 31 := by
  simp [fits32]

theorem wrap32_of_fits {x : Int} (h : fits32 x = true) : wrap32 x = x := by
  have hp : Int.pow 2 31 = 2 ^ 31 := rfl
  have hq : Int.pow 2 32 = 2 ^ 32 := rfl
  obtain ⟨hlo, hhi⟩ := fits32_iff.1 h
  unfold wrap32
  rw [hp, hq, Int.emod_eq_of_lt (by omega) (by omega)]
  ring

/-- Every number read has an exponent in the 32-bit range: each way through `parse` that returns one
checks it last. -/
theorem parse_exp_fits {s : String} {x : Decimal} (h : parse s = .ok x) : fits32 x.exp = true := by
  unfold parse at h
  simp only [bind, Except.bind, pure, Except.pure, throw, throwThe, MonadExceptOf.throw] at h
  repeat' split at h
  all_goals try contradiction
  all_goals
    cases h
    assumption

/-- Moving the point of a number read `d` places to the left, for `0 ≤ d ≤ 18`, is exact when the
exponent stays in range. -/
theorem shift_neg_exact {x : Decimal} {s : String} {d : Int} (hx : parse s = .ok x) (hd : 0 ≤ d ∧ d ≤ 18)
    (hclear : -2 ^ 31 + d ≤ x.exp) : x.shift (wrap32 (-d)) = ⟨x.coeff, x.exp - d⟩ := by
  have hfit := fits32_iff.1 (parse_exp_fits hx)
  have hneg : wrap32 (-d) = -d := wrap32_of_fits (fits32_iff.2 ⟨by omega, by omega⟩)
  have hsum : wrap32 (x.exp + -d) = x.exp - d := by
    rw [wrap32_of_fits (fits32_iff.2 ⟨by omega, by omega⟩)]
    ring
  simp only [shift, hneg, hsum]

end Decimal

theorem Units.standard_eq_ok {raw : String} {d : Int} {x : Decimal} :
    Units.standard raw d = .ok x ↔ ∃ y, Decimal.parse (Clean.trim raw) = .ok y ∧ x = y.shift (Decimal.wrap32 (-d)) := by
  unfold Units.standard
  cases Decimal.parse (Clean.trim raw) <;> simp [bind, Except.bind, pure, Except.pure, eq_comm]

namespace Source

/-- The decimals a source's amounts are read with: the source's own, or THORChain's eight when it
states none. -/
def amountDecimals (src : Source) : Int := if src.decimals = 0 then thorchainDecimals else src.decimals

theorem amountDecimals_mem {src : Source} (hlo : 0 ≤ src.decimals) (hhi : src.decimals ≤ 18) :
    0 ≤ src.amountDecimals ∧ src.amountDecimals ≤ 18 := by
  unfold amountDecimals thorchainDecimals
  split <;> omega

end Source

/-- `x` is the amount of a leg at `d` decimals: the amount text of the leg's first coin, trimmed and
read exactly, with its point moved `d` places to the left. -/
def Leg.ScaledAmount (d : Int) (l : Leg) (x : Decimal) : Prop :=
  ∃ coin y, l.coins.head? = some coin ∧ Decimal.parse (Clean.trim coin.amount) = .ok y ∧
    x = ⟨y.coeff, y.exp - d⟩

/-- No leg of the action has a first coin whose amount reads with an exponent within `d` of the
least 32-bit one, so moving its point `d` places to the left stays in range. -/
def Action.ExponentsClear (a : Action) (d : Int) : Prop :=
  ∀ l ∈ a.inLegs ++ a.outLegs, ∀ coin ∈ l.coins.head?,
    ∀ y ∈ (Decimal.parse (Clean.trim coin.amount)).toOption, -2 ^ 31 + d ≤ y.exp

instance (a : Action) (d : Int) : Decidable (a.ExponentsClear d) :=
  inferInstanceAs (Decidable (∀ l ∈ a.inLegs ++ a.outLegs, ∀ coin ∈ l.coins.head?,
    ∀ y ∈ (Decimal.parse (Clean.trim coin.amount)).toOption, -2 ^ 31 + d ≤ y.exp))

/-- The USD value shown for an amount `x`, with enrichment `enrich` and the price text `price` of
the swap metadata: there exactly when enrichment is on and the price is there and reads as a
decimal, and then the double nearest the exact product of the amount and the price. -/
structure PricedAt (enrich : Bool) (price : Option String) (x : Decimal) (usd : Option Float) : Prop where
  isSome_iff : usd.isSome ↔ enrich = true ∧ ∃ text p, price = some text ∧ Decimal.parse text = .ok p
  eq_product : ∀ text p, enrich = true → price = some text → Decimal.parse text = .ok p →
    usd = some (x.mul p).toFloat

/-- What a record shows of the amounts of its action at `d` decimals and enrichment `enrich`: the
incoming amount is the first incoming leg's and the first outgoing amount some outgoing leg's, each
priced from that same amount; a second outgoing amount is some outgoing leg's, never priced. -/
structure AmountsAtScale (d : Int) (enrich : Bool) (a : Action) (r : SwapRecord) : Prop where
  inAmount : ∃ l rest x, a.inLegs = l :: rest ∧ l.ScaledAmount d x ∧ r.inAmount = x.toFloat ∧
    PricedAt enrich (a.swapMeta.map (·.inPriceUsd)) x r.inAmountUsd
  outAmount1 : ∃ l ∈ a.outLegs, ∃ x, l.ScaledAmount d x ∧ r.outAmount1 = x.toFloat ∧
    PricedAt enrich (a.swapMeta.map (·.outPriceUsd)) x r.outAmount1Usd
  outAmount2 : ∀ f, r.outAmount2 = some f → ∃ l ∈ a.outLegs, ∃ x, l.ScaledAmount d x ∧ f = x.toFloat
  outAmount2Usd : r.outAmount2Usd = none

/-- A price that reads gives the double nearest the product. -/
theorem usdValue_pricedAt (x : Decimal) (text : String) : PricedAt true (some text) x (Transformer.usdValue x text) := by
  constructor
  · cases hp : Decimal.parse text <;> simp [Transformer.usdValue, hp]
  · intro text' p _ htext hp
    cases htext
    simp [Transformer.usdValue, hp]

/-- Without enrichment, or without a price, nothing is priced. -/
theorem pricedAt_none {enrich : Bool} {price : Option String} (x : Decimal)
    (h : ¬(enrich = true ∧ price.isSome)) : PricedAt enrich price x none := by
  constructor
  · simp only [Option.isSome_none, Bool.false_eq_true, false_iff, not_and, not_exists]
    intro he text p hprice _
    exact h ⟨he, by simp [hprice]⟩
  · intro text p he hprice _
    exact absurd ⟨he, by simp [hprice]⟩ h

namespace Transformer

variable {t : Transformer}

/-- A leg read has a first coin, whose amount text the source's decimals scale. -/
theorem readLeg_amount {l : Leg} {v : LegValue} (h : t.readLeg l = .ok v) :
    ∃ coin, l.coins.head? = some coin ∧ Units.standard coin.amount t.source.decimals = .ok v.amount := by
  unfold readLeg at h
  split at h
  · cases h
  rename_i coin rest hcoins
  split at h
  · cases h
  rename_i amount hamount
  split at h
  · cases h
  cases h
  exact ⟨coin, by simp [hcoins], hamount⟩

/-- The legs shown are outgoing legs, read. -/
theorem shownLegs_mem {outs : List Leg} {p : LegValue} {s : Option LegValue} (h : t.shownLegs outs = .ok (p, s)) :
    (∃ l ∈ outs, t.readLeg l = .ok p) ∧ ∀ v, s = some v → ∃ l ∈ outs, t.readLeg l = .ok v := by
  rcases outs with _ | ⟨out1, outs⟩
  · cases h
  rcases h1 : t.readLeg out1 with f1 | v₁ <;> simp only [shownLegs, h1] at h
  · cases h
  rcases outs with _ | ⟨out2, outs⟩
  · cases h
    exact ⟨⟨out1, by simp, h1⟩, by simp⟩
  rcases h2 : t.readLeg out2 with f2 | v₂ <;> simp only [h2] at h
  · cases h
  have hm1 : out1 ∈ out1 :: out2 :: outs := by simp
  have hm2 : out2 ∈ out1 :: out2 :: outs := by simp
  split at h <;> cases h
  · exact ⟨⟨out2, hm2, h2⟩, fun v hv => ⟨out1, hm1, by cases hv; exact h1⟩⟩
  · exact ⟨⟨out1, hm1, h1⟩, fun v hv => ⟨out2, hm2, by cases hv; exact h2⟩⟩

section Priced

variable (t : Transformer) (a : Action) (txId : String) (ts : Instant) (date : String)
  (inLeg primary : LegValue) (second : Option LegValue)

@[simp] theorem settledRecord_inAmount :
    (t.settledRecord a txId ts date inLeg primary second).inAmount = inLeg.amount.toFloat := by
  unfold settledRecord; split <;> rfl

/-- The incoming amount is priced at the incoming price and the first outgoing amount at the
outgoing price. -/
theorem settledRecord_priced :
    PricedAt t.source.enrich (a.swapMeta.map (·.inPriceUsd)) inLeg.amount
        (t.settledRecord a txId ts date inLeg primary second).inAmountUsd ∧
      PricedAt t.source.enrich (a.swapMeta.map (·.outPriceUsd)) primary.amount
        (t.settledRecord a txId ts date inLeg primary second).outAmount1Usd := by
  unfold settledRecord
  split
  · next m he hm =>
    rw [he, hm]
    exact ⟨usdValue_pricedAt _ _, usdValue_pricedAt _ _⟩
  · next hno =>
    have hnone : ∀ f : SwapMeta → String, ¬(t.source.enrich = true ∧ (a.swapMeta.map f).isSome) := by
      rintro f ⟨he, hs⟩
      obtain ⟨m, hm⟩ := Option.isSome_iff_exists.1 (Option.isSome_map.symm.trans hs)
      exact hno m he hm
    exact ⟨pricedAt_none _ (hnone _), pricedAt_none _ (hnone _)⟩

end Priced

/-- A leg read by a source's transformer carries the amount of its first coin at the source's
decimals, when that amount's exponent stays in range. -/
theorem readLeg_scaledAmount {src : Source} {l : Leg} {v : LegValue} (hlo : 0 ≤ src.decimals)
    (hhi : src.decimals ≤ 18)
    (hclear : ∀ coin ∈ l.coins.head?, ∀ y ∈ (Decimal.parse (Clean.trim coin.amount)).toOption,
      -2 ^ 31 + src.amountDecimals ≤ y.exp)
    (h : (Transformer.new src).readLeg l = .ok v) : l.ScaledAmount src.amountDecimals v.amount := by
  obtain ⟨coin, hcoin, hstd⟩ := readLeg_amount h
  obtain ⟨y, hy, hv⟩ := Units.standard_eq_ok.1 hstd
  rw [hv]
  have hexp : -2 ^ 31 + src.amountDecimals ≤ y.exp := hclear coin hcoin y (by simp [hy, Except.toOption])
  exact ⟨coin, y, hcoin, hy, Decimal.shift_neg_exact hy (Source.amountDecimals_mem hlo hhi) hexp⟩

end Transformer

open Transformer in
/-- For a source whose decimals pass the configuration check, every amount of a record is the
exact amount of its leg's first coin at the source's decimals (eight when it states none), turned
into the nearest double; with enrichment on, the incoming and the first outgoing amount are priced
from those same amounts where the metadata's prices read, and nothing else is priced. -/
theorem record_amounts_at_source_scale {src : Source} {a : Action} {r : SwapRecord}
    (hlo : 0 ≤ src.decimals) (hhi : src.decimals ≤ 18) (hclear : a.ExponentsClear src.amountDecimals)
    (h : (Transformer.new src).transform a = .ok (.record r)) :
    AmountsAtScale src.amountDecimals src.enrich a r := by
  obtain ⟨first, rest, raw, ts, inLeg, p, s, date, hin, -, -, -, -, hl, ho, -, rfl⟩ :=
    transform_record_stages h
  have hread : ∀ l ∈ a.inLegs ++ a.outLegs, ∀ v, (Transformer.new src).readLeg l = .ok v →
      l.ScaledAmount src.amountDecimals v.amount :=
    fun l hl v hv => readLeg_scaledAmount hlo hhi (hclear l hl) hv
  have hout : ∀ l ∈ a.outLegs.reverse, l ∈ a.inLegs ++ a.outLegs :=
    fun l hl => List.mem_append_right _ (List.mem_reverse.1 hl)
  obtain ⟨⟨l₁, hl₁, hp⟩, hs⟩ := shownLegs_mem ho
  refine ⟨⟨first, rest, inLeg.amount, hin, hread first (by simp [hin]) inLeg hl, by simp,
      (settledRecord_priced ..).1⟩,
    ⟨l₁, List.mem_reverse.1 hl₁, p.amount, hread l₁ (hout l₁ hl₁) p hp, by simp,
      (settledRecord_priced ..).2⟩, fun f hf => ?_, by simp⟩
  simp only [settledRecord_outAmount2, Option.map_eq_some_iff] at hf
  obtain ⟨v, hv, rfl⟩ := hf
  obtain ⟨l₂, hl₂, hv₂⟩ := hs v hv
  exact ⟨l₂, List.mem_reverse.1 hl₂, v.amount, hread l₂ (hout l₂ hl₂) v hv₂, rfl⟩

/-- A native source that states no decimals and prices its records. -/
def unstatedDecimalsSource : Source :=
  { kind := Source.native, settlementAsset := "THOR.RUNE", nameStyle := "pool", enrich := true }

/-- A settled swap of one bitcoin (100000000 base units) into two RUNE and 0.3 bitcoin, at sixty
thousand dollars a bitcoin. -/
def pricedBitcoinSwap : Action where
  date := "1700000000000000000"
  inLegs := [⟨"bc1qsender", [⟨"100000000", "BTC.BTC"⟩], some "TX1"⟩]
  outLegs := [⟨"thor1rune", [⟨"200000000", "THOR.RUNE"⟩], none⟩, ⟨"bc1qout", [⟨"30000000", "BTC.BTC"⟩], none⟩]
  swapMeta := some ⟨"60000", "60000"⟩
  pools := ["BTC.BTC"]
  status := "success"
  type := "swap"

open Transformer in
/-- The priced bitcoin swap, at a source that states no decimals, shows its amounts at eight
decimals and priced. -/
theorem unstated_decimals_amounts_at_eight :
    ∃ r, (Transformer.new unstatedDecimalsSource).transform pricedBitcoinSwap = .ok (.record r) ∧
      AmountsAtScale 8 true pricedBitcoinSwap r := by
  have hsome : ((Transformer.new unstatedDecimalsSource).recordOf? pricedBitcoinSwap).isSome = true := by
    decide +kernel
  obtain ⟨r, hr⟩ := Option.isSome_iff_exists.1 hsome
  have h := recordOf?_eq_some.1 hr
  exact ⟨r, h, record_amounts_at_source_scale (by decide) (by decide) (by decide +kernel) h⟩

open Transformer in
/-- A source that states no decimals does not read amounts in base units: one bitcoin's 100000000
base units are recorded as one. -/
theorem unstated_decimals_not_base_units :
    ∃ r, (Transformer.new unstatedDecimalsSource).transform pricedBitcoinSwap = .ok (.record r) ∧
      r.inAmount = Decimal.toFloat ⟨1, 0⟩ ∧ r.inAmount ≠ Decimal.toFloat ⟨100000000, 0⟩ := by
  have hin : ((Transformer.new unstatedDecimalsSource).recordOf? pricedBitcoinSwap).map (·.inAmount) =
      some (Decimal.toFloat ⟨1, 0⟩) := by
    decide +kernel
  obtain ⟨r, hr, hone⟩ := Option.map_eq_some_iff.1 hin
  refine ⟨r, recordOf?_eq_some.1 hr, hone, ?_⟩
  rw [hone]
  decide +kernel

end SwapArchive
