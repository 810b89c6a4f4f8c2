import Mathlib
import SwapArchive.Ingest.Reconcile
import SwapArchive.Proofs.Time.DateText

/-!
# Reconcile windows and local calendar days

`Reconcile.window now z` takes the local midnight of `now`'s date (`Zone.date`) and the same reading
one day later. On a day whose two midnights the zone keeps plainly (`Zone.ClearMidnight`), around
which the local day never goes back (`Zone.DaysInOrder`), that is `now`'s local day
(`Zone.localDay`): `now` lies in it, consecutive windows meet, and a window lasts a day exactly
when the offsets at its ends agree. Where the clocks go forward at local midnight west of UTC, the
midnight reading does not exist and moves back by the gap: the window runs from 23:00 of the
previous day to 23:00 of `now`'s day, missing a `now` in the last hour (São Paulo, 4 November
2018, as the one-change zone `Zone.oneChange`).
-/

namespace SwapArchive

set_option autoImplicit false

namespace Civil

/-- The reading of an instant on a clock `o` seconds ahead of UTC, field by field. -/
theorem ofInstant_eq (t : Instant) (o : Int) :
    ofInstant t o =
      ⟨(Calendar.civilFromDays (Calendar.readable (t.sec + o) / 86400)).1,
        (Calendar.civilFromDays (Calendar.readable (t.sec + o) / 86400)).2.1,
        (Calendar.civilFromDays (Calendar.readable (t.sec + o) / 86400)).2.2,
        (Calendar.readable (t.sec + o) % 86400).toNat / 3600,
        (Calendar.readable (t.sec + o) % 86400).toNat / 60 % 60,
        (Calendar.readable (t.sec + o) % 86400).toNat % 60, t.nsec⟩ := by
  unfold ofInstant
  rfl

end Civil

namespace Calendar

/-- `daysFromCivil` carries a day past the end of its month into the day numbers. -/
theorem daysFromCivil_succ_day (y : Int) (m : Nat) (d : Int) :
    daysFromCivil y m (d + 1) = daysFromCivil y m d + 1 := by
  simp only [daysFromCivil]
  ring

end Calendar

namespace Zone

/-- The local calendar day of a UTC second in the zone, counted in days from 1970-01-01: the day
its reading shows. -/
def localDay (z : Zone) (s : Int) : Int := Calendar.readable (s + (z.lookup s).offset) / 86400

/-- The local midnight at wall second `w` falls plainly at the UTC second `w - o`: the offset `o`
is under a day and holds from the second before that instant through `w` read as a UTC second. -/
def ClearMidnight (z : Zone) (w o : Int) : Prop :=
  -86400 < o ∧ o < 86400 ∧
    ∀ s, min w (w - o) - 1 ≤ s → s ≤ max w (w - o) → (z.lookup s).offset = o

/-- Between the UTC seconds `a` and `b` the local day never goes back. -/
def DaysInOrder (z : Zone) (a b : Int) : Prop :=
  ∀ s₁ s₂, a ≤ s₁ → s₁ ≤ s₂ → s₂ ≤ b → z.localDay s₁ ≤ z.localDay s₂

/-- Every offset of the zone is under a day. -/
def OffsetsUnderADay (z : Zone) : Prop :=
  ∀ s, -86400 < (z.lookup s).offset ∧ (z.lookup s).offset < 86400

/-- Where the offset is `o`, the local day of a second whose local second fits a reading is the
day of `s + o`. -/
theorem localDay_of_offset {z : Zone} {s o : Int} (h : (z.lookup s).offset = o)
    (hs : -2 ^ 62 ≤ s + o ∧ s + o < 2 ^ 62) : z.localDay s = (s + o) / 86400 := by
  rw [localDay, h, Calendar.readable_of_small hs]

/-- In a zone whose offsets are under a day, a second's local day starts less than two days
before it and less than a day after it. -/
theorem localDay_bounds {z : Zone} (hz : z.OffsetsUnderADay) {s : Int}
    (hs : -2 ^ 61 ≤ s ∧ s ≤ 2 ^ 61) :
    s - 2 * 86400 < z.localDay s * 86400 ∧ z.localDay s * 86400 < s + 86400 := by
  obtain ⟨h1, h2⟩ := hz s
  rw [localDay_of_offset rfl (by omega)]
  omega

theorem DaysInOrder.mono {z : Zone} {a b a' b' : Int} (h : z.DaysInOrder a b) (ha : a ≤ a')
    (hb : b' ≤ b) : z.DaysInOrder a' b' :=
  fun s₁ s₂ h₁ h₁₂ h₂ => h s₁ s₂ (ha.trans h₁) h₁₂ (h₂.trans hb)

/-- A plainly kept midnight, and the second before it, read as the start of the midnight's day and
the end of the day before. -/
theorem ClearMidnight.localDay_eq {z : Zone} {k o : Int} (hc : z.ClearMidnight (k * 86400) o)
    (hk : -2 ^ 61 ≤ k * 86400 ∧ k * 86400 ≤ 2 ^ 61) :
    z.localDay (k * 86400 - o) = k ∧ z.localDay (k * 86400 - o - 1) = k - 1 := by
  obtain ⟨ho1, ho2, hkeep⟩ := hc
  constructor
  · rw [localDay_of_offset (hkeep _ (by omega) (by omega)) (by omega), sub_add_cancel]
    omega
  · rw [localDay_of_offset (hkeep _ (by omega) (by omega)) (by omega)]
    omega

/-- A plainly kept midnight is the first second of its local day: every second of the zone
(whose local second fits a reading) before it is on an earlier day, every one from it on a later
or the same day. The days around the midnight are told apart by their order, those further away
by `localDay_bounds`. -/
theorem ClearMidnight.localDay_lt_iff {z : Zone} (hz : z.OffsetsUnderADay) {k o : Int}
    (hc : z.ClearMidnight (k * 86400) o) (hk : -2 ^ 61 ≤ k * 86400 ∧ k * 86400 ≤ 2 ^ 61)
    (hord : z.DaysInOrder ((k - 2) * 86400) ((k + 2) * 86400)) {s : Int}
    (hs : -2 ^ 61 ≤ s ∧ s ≤ 2 ^ 61) : z.localDay s < k ↔ s < k * 86400 - o := by
  obtain ⟨hat, hbefore⟩ := hc.localDay_eq (by omega)
  obtain ⟨ho1, ho2, -⟩ := hc
  have hb := localDay_bounds hz hs
  constructor
  · intro hlt
    by_contra hge
    by_cases hnear : s ≤ (k + 2) * 86400
    · have := hord _ _ (by omega) (not_lt.1 hge) hnear
      omega
    · omega
  · intro hlt
    by_cases hnear : (k - 2) * 86400 ≤ s
    · have := hord _ _ hnear (by omega : s ≤ k * 86400 - o - 1) (by omega)
      omega
    · omega

/-- The instant of a wall reading at a midnight that the zone keeps plainly: the wall second less
the offset. -/
theorem date_midnight (z : Zone) {y : Int} {m : Nat} {d w o : Int} (hm : 1 ≤ m ∧ m ≤ 12)
    (hW : Calendar.daysFromCivil y m d * 86400 = w) (hw : -2 ^ 62 ≤ w ∧ w ≤ 2 ^ 62)
    (hc : z.ClearMidnight w o) :
    z.date y m d 0 0 0 0 = ⟨w - o, 0⟩ := by
  obtain ⟨ho1, ho2, hk⟩ := hc
  have hm64 : Word.min64 = -9223372036854775808 ∧ Word.modulus64 = 18446744073709551616 :=
    ⟨by decide, by decide⟩
  have hwrap : ∀ x : Int, -2 ^ 63 ≤ x → x < 2 ^ 63 → Word.wrap64 x = x := fun x h1 h2 =>
    Word.wrap64_of_range x (by omega) (by omega)
  have hfirst : (z.lookup w).offset = o := hk w (by omega) (by omega)
  have hutc : (z.lookup (w - o)).offset = o := hk (w - o) (by omega) (by omega)
  unfold date
  simp only [show ((m : Int) - 1) / 12 = 0 by omega, add_zero,
    show (((m : Int) - 1) % 12 + 1).toNat = m by omega, zero_mul, Int.zero_ediv, Int.zero_emod,
    Int.toNat_zero, hW, hwrap w (by omega) (by omega), hfirst, hwrap (w - o) (by omega) (by omega),
    hutc, ite_self]
  rw [show (if o = 0 then (0 : Int) else o) = o by split_ifs <;> omega, hwrap (w - o) (by omega) (by omega)]

/-- A plainly kept midnight reads as midnight of its day. -/
theorem civil_midnight {z : Zone} {k o : Int} (hc : z.ClearMidnight (k * 86400) o)
    (hk : -2 ^ 61 ≤ k * 86400 ∧ k * 86400 ≤ 2 ^ 61) :
    z.civil ⟨k * 86400 - o, 0⟩ =
      ⟨(Calendar.civilFromDays k).1, (Calendar.civilFromDays k).2.1, (Calendar.civilFromDays k).2.2,
        0, 0, 0, 0⟩ := by
  obtain ⟨ho1, ho2, hkeep⟩ := hc
  have hoff : (z.lookup (k * 86400 - o)).offset = o := hkeep _ (by omega) (by omega)
  unfold civil offsetAt
  rw [Civil.ofInstant_eq]
  dsimp only
  rw [hoff, sub_add_cancel, Calendar.readable_of_small (by omega),
    Int.mul_ediv_cancel _ (by norm_num), Int.mul_emod_left]
  rfl

/-- Midnight of an instant's date, on a day whose midnight the zone keeps plainly, is the first
instant of the instant's local day. -/
theorem date_civil_midnight (z : Zone) (t : Instant) {o : Int}
    (hc : z.ClearMidnight (z.localDay t.sec * 86400) o)
    (hw : -2 ^ 62 ≤ z.localDay t.sec * 86400 ∧ z.localDay t.sec * 86400 ≤ 2 ^ 62) :
    z.date (z.civil t).year (z.civil t).month (z.civil t).day 0 0 0 0 =
      ⟨z.localDay t.sec * 86400 - o, 0⟩ := by
  obtain ⟨hm1, hm12, -⟩ := Calendar.isDate_civilFromDays (z.localDay t.sec)
  unfold civil offsetAt
  rw [Civil.ofInstant_eq]
  dsimp only
  exact date_midnight z ⟨hm1, hm12⟩ (by rw [Calendar.daysFromCivil_civilFromDays]; rfl) hw hc

/-! ## A zone with one change -/

/-- The zone that keeps `before` until the UTC second `t` and `after` from then on. -/
def oneChange (before after : LocalType) (t : Int) : Zone := ⟨#[before, after], #[(t, 1)], none⟩

@[simp]
theorem oneChange_offset (b a : LocalType) (t s : Int) :
    ((oneChange b a t).lookup s).offset = if s < t then b.offset else a.offset := by
  by_cases h : s < t
  · simp [lookup, oneChange, h, firstTypeIndex]
  · simp [lookup, oneChange, h, findTransition]

theorem oneChange_offsetsUnderADay {b a : LocalType} {t : Int} (hb : -86400 < b.offset ∧ b.offset < 86400)
    (ha : -86400 < a.offset ∧ a.offset < 86400) : (oneChange b a t).OffsetsUnderADay := by
  intro s
  rw [oneChange_offset]
  split_ifs
  · exact hb
  · exact ha

/-- A zone with one change forward keeps its local days in order. -/
theorem oneChange_daysInOrder {b a : LocalType} {t lo hi : Int} (hba : b.offset ≤ a.offset)
    (hb : -86400 < b.offset) (ha : a.offset < 86400) (hr : -2 ^ 61 ≤ lo ∧ hi ≤ 2 ^ 61) :
    (oneChange b a t).DaysInOrder lo hi := by
  intro s₁ s₂ h₁ h₁₂ h₂
  have hoff : ∀ s, b.offset ≤ ((oneChange b a t).lookup s).offset ∧
      ((oneChange b a t).lookup s).offset ≤ a.offset := by
    intro s
    rw [oneChange_offset]
    split_ifs <;> omega
  obtain ⟨hb₁, ha₁⟩ := hoff s₁
  obtain ⟨hb₂, ha₂⟩ := hoff s₂
  rw [localDay_of_offset rfl (by omega), localDay_of_offset rfl (by omega)]
  apply Int.ediv_le_ediv (by norm_num)
  simp only [oneChange_offset]
  split_ifs <;> omega

end Zone

namespace Reconcile

/-- The window starts at the first instant of `now`'s local day, when the zone keeps its
midnight plainly. -/
theorem window_fst {z : Zone} {now : Instant} {o : Int} (hnow : -2 ^ 60 ≤ now.sec ∧ now.sec ≤ 2 ^ 60)
    (hz : z.OffsetsUnderADay) (hmid : z.ClearMidnight (z.localDay now.sec * 86400) o) :
    (window now z).1 = ⟨z.localDay now.sec * 86400 - o, 0⟩ := by
  have hb := Zone.localDay_bounds hz (s := now.sec) ⟨by omega, by omega⟩
  exact Zone.date_civil_midnight z now hmid (by omega)

/-- The window of `now` on a day whose two midnights the zone keeps plainly: from the instant of
the day's midnight to the instant of the next day's. -/
theorem window_eq_midnights {z : Zone} {now : Instant} {o o' : Int}
    (hnow : -2 ^ 60 ≤ now.sec ∧ now.sec ≤ 2 ^ 60) (hz : z.OffsetsUnderADay)
    (hmid : z.ClearMidnight (z.localDay now.sec * 86400) o)
    (hnext : z.ClearMidnight ((z.localDay now.sec + 1) * 86400) o') :
    window now z = (⟨z.localDay now.sec * 86400 - o, 0⟩, ⟨(z.localDay now.sec + 1) * 86400 - o', 0⟩) := by
  have hstart := window_fst hnow hz hmid
  set D := z.localDay now.sec
  have hb := Zone.localDay_bounds hz (s := now.sec) ⟨by omega, by omega⟩
  obtain ⟨hm1, hm12, -⟩ := Calendar.isDate_civilFromDays D
  have hend : (window now z).2 = let s := z.civil (window now z).1
      z.date s.year s.month (s.day + 1) s.hour s.minute s.second s.nsec := rfl
  rw [hstart, Zone.civil_midnight hmid (by omega)] at hend
  refine Prod.ext hstart (hend.trans ?_)
  dsimp only
  simp only [Nat.cast_zero]
  exact Zone.date_midnight z ⟨hm1, hm12⟩
    (by rw [Calendar.daysFromCivil_succ_day, Calendar.daysFromCivil_civilFromDays])
    (by omega) hnext

/-- On a day whose two midnights the zone keeps plainly, and around which its local days keep
their order, the window of `now` is `now`'s local day: it starts at the first second of that day
and ends at the first second of the next, so it holds `now`; the window of any instant of the next
day starts where it ends; and it lasts a day exactly when the offsets at its two ends agree. -/
theorem window_is_local_day (z : Zone) (now : Instant) {o o' : Int}
    (hnow : -2 ^ 60 ≤ now.sec ∧ now.sec ≤ 2 ^ 60) (hz : z.OffsetsUnderADay)
    (hmid : z.ClearMidnight (z.localDay now.sec * 86400) o)
    (hnext : z.ClearMidnight ((z.localDay now.sec + 1) * 86400) o')
    (hord : z.DaysInOrder ((z.localDay now.sec - 2) * 86400) ((z.localDay now.sec + 3) * 86400)) :
    let w := window now z
    w.1.nsec = 0 ∧ w.2.nsec = 0 ∧
      z.localDay w.1.sec = z.localDay now.sec ∧ z.localDay w.2.sec = z.localDay now.sec + 1 ∧
      (∀ s, -2 ^ 61 ≤ s → s ≤ 2 ^ 61 →
        (z.localDay s < z.localDay now.sec ↔ s < w.1.sec) ∧
        (z.localDay s ≤ z.localDay now.sec ↔ s < w.2.sec)) ∧
      w.1.sec ≤ now.sec ∧ now.sec < w.2.sec ∧
      (∀ next : Instant, -2 ^ 60 ≤ next.sec → next.sec ≤ 2 ^ 60 →
        z.localDay next.sec = z.localDay now.sec + 1 → (window next z).1 = w.2) ∧
      (w.2.sec - w.1.sec = 86400 ↔ z.offsetAt w.1 = z.offsetAt w.2) := by
  intro w
  have hw : w = _ := window_eq_midnights hnow hz hmid hnext
  set D := z.localDay now.sec
  have hb := Zone.localDay_bounds hz (s := now.sec) ⟨by omega, by omega⟩
  have hstart := hmid.localDay_eq (by omega)
  have hend := hnext.localDay_eq (by omega)
  have hfirst : ∀ s, -2 ^ 61 ≤ s → s ≤ 2 ^ 61 → (z.localDay s < D ↔ s < D * 86400 - o) :=
    fun s h₁ h₂ => hmid.localDay_lt_iff hz (by omega) (hord.mono (by omega) (by omega)) ⟨h₁, h₂⟩
  have hsecond : ∀ s, -2 ^ 61 ≤ s → s ≤ 2 ^ 61 → (z.localDay s < D + 1 ↔ s < (D + 1) * 86400 - o') :=
    fun s h₁ h₂ => hnext.localDay_lt_iff hz (by omega) (hord.mono (by omega) (by omega)) ⟨h₁, h₂⟩
  have hnowFirst := (hfirst now.sec (by omega) (by omega)).not.1 (lt_irrefl D)
  have hnowSecond := (hsecond now.sec (by omega) (by omega)).1 (lt_add_one D)
  obtain ⟨ho1, ho2, hkeep⟩ := hmid
  obtain ⟨ho1', ho2', hkeep'⟩ := hnext
  have hoff : z.offsetAt ⟨D * 86400 - o, 0⟩ = o := hkeep (D * 86400 - o) (by omega) (by omega)
  have hoff' : z.offsetAt ⟨(D + 1) * 86400 - o', 0⟩ = o' :=
    hkeep' ((D + 1) * 86400 - o') (by omega) (by omega)
  rw [hw]
  dsimp only
  refine ⟨rfl, rfl, hstart.1, hend.1, fun s h₁ h₂ => ⟨hfirst s h₁ h₂, ?_⟩, by omega, hnowSecond,
    ?_, ?_⟩
  · rw [← Int.lt_add_one_iff]
    exact hsecond s h₁ h₂
  · intro next h₁ h₂ hday
    rw [window_fst ⟨h₁, h₂⟩ hz (o := o') (by rw [hday]; exact ⟨ho1', ho2', hkeep'⟩), hday]
  · rw [hoff, hoff']
    omega

/-- New York's change to daylight time at 2:00 on 10 March 2024 (as a zone of that one change),
seen at noon that day: the window holds noon, and runs from the first second of that day to the
first second of the next. -/
theorem spring_forward_window_holds_noon :
    let z := Zone.oneChange ⟨-18000, false⟩ ⟨-14400, true⟩ 1710054000
    let w := window ⟨1710086400, 0⟩ z
    w.1.sec ≤ 1710086400 ∧ 1710086400 < w.2.sec ∧ z.localDay w.1.sec = 19792 ∧
      z.localDay w.2.sec = 19793 := by
  intro z w
  have hD : z.localDay 1710086400 = 19792 := by
    rw [Zone.localDay_of_offset (Zone.oneChange_offset _ _ _ _) (by norm_num)]
    norm_num
  have hmid : z.ClearMidnight (z.localDay 1710086400 * 86400) (-18000) := by
    rw [hD]
    refine ⟨by norm_num, by norm_num, fun s h₁ h₂ => ?_⟩
    rw [Zone.oneChange_offset, if_pos (by omega)]
  have hnext : z.ClearMidnight ((z.localDay 1710086400 + 1) * 86400) (-14400) := by
    rw [hD]
    refine ⟨by norm_num, by norm_num, fun s h₁ h₂ => ?_⟩
    rw [Zone.oneChange_offset, if_neg (by omega)]
  obtain ⟨-, -, hday, hday', -, hfrom, hto, -, -⟩ := window_is_local_day z ⟨1710086400, 0⟩
    (by norm_num) (Zone.oneChange_offsetsUnderADay (by norm_num) (by norm_num)) hmid hnext
    (Zone.oneChange_daysInOrder (by norm_num) (by norm_num) (by norm_num) (by rw [hD]; norm_num))
  rw [hD] at hday hday'
  exact ⟨hfrom, hto, hday, hday'⟩

/-- São Paulo's change to daylight time at midnight of 4 November 2018 (as a zone of that one
change): the midnight reading does not exist, so the window of that day starts the day before;
at 23:30 the window has already ended, and the next day's window starts later than it ends. -/
theorem midnight_gap_window_misses_now :
    let z := Zone.oneChange ⟨-10800, false⟩ ⟨-7200, true⟩ 1541300400
    z.localDay (window ⟨1541381400, 0⟩ z).1.sec = z.localDay 1541381400 - 1 ∧
      (window ⟨1541381400, 0⟩ z).2.sec ≤ 1541381400 ∧
      (window ⟨1541381400, 0⟩ z).2.sec < (window ⟨1541385000, 0⟩ z).1.sec := by
  decide +kernel

end Reconcile

end SwapArchive
