import Mathlib
import SwapArchive.Proofs.Swap.Stages
import SwapArchive.Proofs.Time.DateText
import SwapArchive.Proofs.Number.DecimalText

/-!
# The time fields of a record

An action's date is a count of nanoseconds since the epoch written in decimal. For every such count
that is a signed 64-bit word, the date reads as the instant that many nanoseconds after the epoch, a
record made of the action carries that instant's second rounded down, the `YYYY-MM-DD` text of its
UTC date (the date reached by counting days from 1970-01-01; its year lies between 1677 and 2262)
and its UTC time on the twelve-hour clock, and the action is never rejected for its timestamp: the
stored date, read back from the shown one, always reads (`Transformer.record_time_fields_exact`).
-/

namespace SwapArchive

set_option autoImplicit false

namespace Calendar

/-- The days of instants that a 64-bit count of nanoseconds reaches lie in the years 1677 to 2262. -/
theorem civilFromDays_year_of_nanoDay {z : Int} (h1 : -106752 ≤ z) (h2 : z ≤ 106751) :
    1677 ≤ (civilFromDays z).1 ∧ (civilFromDays z).1 ≤ 2262 := by
  obtain ⟨y, d, h0, hlt, hz⟩ := exists_marchStart (z + 719468)
  have hlen := marchYearDays_bounds y
  rw [show z = marchStart y + d - 719468 by omega, civilFromDays_marchStart y d ⟨h0, hlt⟩,
    marchDate_year y d ⟨h0, hlt⟩]
  unfold marchStart at hz
  split_ifs <;> omega

end Calendar

namespace Transformer

/-- Every 64-bit nanosecond date written in decimal reads as its instant; a record of the action
holds the second rounded down, the UTC date counted from 1970-01-01 as `YYYY-MM-DD` and the UTC time
on the twelve-hour clock; and no action with such a date is rejected for its timestamp. -/
theorem record_time_fields_exact (t : Transformer) (a : Action) (d : DecimalText) (hdate : a.date = d.text)
    (hlo : -2 ^ 63 ≤ d.value) (hhi : d.value < 2 ^ 63) :
    (∃ ts, Units.nanoTimestamp a.date = .ok ts ∧ ts.sec * 1000000000 + ts.nsec = d.value ∧
      ts.nsec < 1000000000) ∧
    (∀ r, t.transform a = .ok (.record r) →
      r.timestamp * 1000000000 ≤ d.value ∧ d.value < (r.timestamp + 1) * 1000000000 ∧
      ∃ (day : Int) (secs : Nat), r.timestamp = day * 86400 + secs ∧ secs < 86400 ∧
        r.date = isoDate (Calendar.dateOfDay day) ∧ r.time = clockText (secs / 3600) (secs / 60 % 60) ∧
        1677 ≤ (Calendar.dateOfDay day).1 ∧ (Calendar.dateOfDay day).1 ≤ 2262) ∧
    ∀ e, t.transform a = .error e → e.fault ≠ .invalidTimestamp := by
  have hts : Units.nanoTimestamp a.date = .ok (Instant.ofNanos d.value) := by
    rw [hdate]
    exact Units.nanoTimestamp_decimalText d hlo hhi
  have hsec : (Instant.ofNanos d.value).sec = d.value / 1000000000 := by rw [Instant.ofNanos_eq hlo hhi]
  have hnsec : (Instant.ofNanos d.value).nsec = (d.value % 1000000000).toNat := by rw [Instant.ofNanos_eq hlo hhi]
  generalize Instant.ofNanos d.value = ts at hts hsec hnsec
  -- the seconds of a 64-bit nanosecond count are far inside the words, and its days in 1677 to 2262
  have hsmall : -2 ^ 62 ≤ ts.sec ∧ ts.sec < 2 ^ 62 := by omega
  have hyear := Calendar.civilFromDays_year_of_nanoDay (z := ts.sec / 86400) (by omega) (by omega)
  have hsql := Units.sqlDate_displayDateTime ts hsmall ⟨by omega, by omega⟩
  refine ⟨⟨ts, hts, by omega, by omega⟩, ?_, ?_⟩
  · intro r hr
    obtain ⟨-, -, raw, ts', inLeg, p, s, date, -, -, -, -, hts', -, -, hd, rfl⟩ := transform_record_stages hr
    rw [hts] at hts'
    cases hts'
    rw [hsql] at hd
    cases hd
    simp only [settledRecord_timestamp, settledRecord_date, settledRecord_time]
    refine ⟨by omega, by omega, ts.sec / 86400, (ts.sec % 86400).toNat, by omega, by omega, ?_, ?_, ?_⟩
    · rw [Calendar.civilFromDays_eq_dateOfDay]
    · exact Units.displayDateTime_snd ts hsmall
    · rw [← Calendar.civilFromDays_eq_dateOfDay]
      exact hyear
  · intro e he hf
    rcases transform_invalidTimestamp he hf with ⟨err, herr⟩ | ⟨ts', err, hts', herr⟩
    · rw [hts] at herr
      cases herr
    · rw [hts] at hts'
      cases hts'
      rw [hsql] at herr
      cases herr

/-- The date `-1`, one nanosecond before the epoch, written with white space around it. -/
def preEpochDate : DecimalText where
  lead := [' ']
  sign := some '-'
  digits := ['1']
  trail := ['\n']
  lead_spaces := by
    simp only [List.mem_singleton, forall_eq]
    rfl
  trail_spaces := by
    simp only [List.mem_singleton, forall_eq]
    rfl
  sign_mem := by decide
  digits_ne_nil := by decide
  digits_isDigit := by
    simp only [List.mem_singleton, forall_eq]
    rfl

/-- A settled swap one nanosecond before the epoch. -/
def preEpochSwap : Action where
  date := " -1\n"
  inLegs := [⟨"bc1qsender", [⟨"100000000", "BTC.BTC"⟩], some "A1"⟩]
  outLegs := [⟨"0xdest", [⟨"2000000000", "ETH.ETH"⟩], none⟩]
  swapMeta := none
  pools := ["BTC.BTC", "ETH.ETH"]
  status := "success"
  type := "swap"

/-- One nanosecond before the epoch is the last minute of 1969-12-31, second `-1`. -/
theorem nanosecond_before_epoch_fields :
    ∃ r, (Transformer.new { kind := Source.native }).transform preEpochSwap = .ok (.record r) ∧
      r.timestamp = -1 ∧ r.date = "1969-12-31" ∧ r.time = "11:59pm" := by
  let t := Transformer.new { kind := Source.native }
  have hrec : (t.recordOf? preEpochSwap).isSome = true := by decide +kernel
  rcases hr : t.recordOf? preEpochSwap with _ | r
  · rw [hr] at hrec
    cases hrec
  have h := Transformer.recordOf?_eq_some.1 hr
  have hvalue : preEpochDate.value = -1 := by decide
  obtain ⟨-, hfields, -⟩ := record_time_fields_exact t preEpochSwap preEpochDate (by decide)
    (by rw [hvalue]; decide) (by rw [hvalue]; decide)
  obtain ⟨hlo, hhi, day, secs, hsplit, hsecs, hdate, htime, -⟩ := hfields r h
  rw [hvalue] at hlo hhi
  have hts : r.timestamp = -1 := by omega
  obtain ⟨rfl, rfl⟩ : day = -1 ∧ secs = 86399 := by omega
  refine ⟨r, h, hts, ?_, ?_⟩
  · rw [hdate]
    decide
  · rw [htime]
    decide

end Transformer

end SwapArchive
