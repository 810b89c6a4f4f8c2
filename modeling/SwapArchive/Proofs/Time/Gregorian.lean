import Mathlib
import SwapArchive.Time.Calendar

/-!
# The Gregorian calendar of day numbers

`Calendar.civilFromDays` finds the date of a day number by the arithmetic of 400-year eras, and
`Calendar.daysFromCivil` the day number of a date. Both are tied to counting days: day 0 is
1970-01-01 and each day number after it is the next day (`Calendar.nextDay`), so the date of a day
number is the date reached by counting to it (`Calendar.civilFromDays_eq_dateOfDay`), and on dates
the two are inverse. The proofs count in March years, from 1 March of `y` to the end of February
of `y + 1`, so that a leap day is the last: every day number falls in one
(`Calendar.exists_marchStart`), and `civilFromDays` finds that year, splitting an era into
centuries, four-year cycles and years, and the month by the table of month starts.
-/

namespace SwapArchive

namespace Calendar

set_option autoImplicit false

/-! ## March years -/

/-- The number of days of the March year `y`: 366 when it ends with a leap day. -/
def marchYearDays (y : Int) : Int := if isLeap (y + 1) then 366 else 365

/-- The number of days from 1 March of year 0 to 1 March of year `y`. -/
def marchStart (y : Int) : Int := 365 * y + y / 4 - y / 100 + y / 400

theorem marchYearDays_bounds (y : Int) : 365 ≤ marchYearDays y ∧ marchYearDays y ≤ 366 := by
  unfold marchYearDays
  split_ifs <;> omega

/-- A March year ends where the next one starts. -/
theorem marchStart_succ (y : Int) : marchStart (y + 1) = marchStart y + marchYearDays y := by
  unfold marchStart marchYearDays isLeap
  split_ifs with h <;> simp only [decide_eq_true_eq] at h <;> omega

/-- Every day falls in a March year. -/
theorem exists_marchStart (z : Int) : ∃ y d, 0 ≤ d ∧ d < marchYearDays y ∧ z = marchStart y + d := by
  induction z using Int.induction_on with
  | zero => exact ⟨0, 0, le_refl _, by have := marchYearDays_bounds 0; omega, by decide⟩
  | succ i ih =>
    obtain ⟨y, d, h0, h1, hz⟩ := ih
    by_cases hd : d + 1 < marchYearDays y
    · exact ⟨y, d + 1, by omega, hd, by omega⟩
    · refine ⟨y + 1, 0, le_refl _, by have := marchYearDays_bounds (y + 1); omega, ?_⟩
      rw [marchStart_succ]
      omega
  | pred i ih =>
    obtain ⟨y, d, h0, h1, hz⟩ := ih
    by_cases hd : 0 < d
    · exact ⟨y, d - 1, by omega, by omega, by omega⟩
    · have hlen := marchYearDays_bounds (y - 1)
      have hstep := marchStart_succ (y - 1)
      rw [sub_add_cancel] at hstep
      exact ⟨y - 1, marchYearDays (y - 1) - 1, by omega, by omega, by omega⟩

/-! ## The year within an era

An era is 400 years, 146097 days, from 1 March of a year that 400 divides. -/

/-- The number of days from the start of an era to 1 March of its year `yoe`. -/
def eraDays (yoe : Int) : Int := 365 * yoe + yoe / 4 - yoe / 100

/-- The year of the era holding day `doe` of the era, as `civilFromDays` computes it. -/
def yearOfEra (doe : Int) : Int := (doe - doe / 1460 + doe / 36524 - doe / 146096) / 365

theorem marchStart_eq_era (y : Int) : marchStart y = y / 400 * 146097 + eraDays (y % 400) := by
  unfold marchStart eraDays
  omega

theorem marchYearDays_emod (y : Int) : marchYearDays (y % 400) = marchYearDays y := by
  simp only [marchYearDays, isLeap, decide_eq_true_eq]
  split_ifs <;> omega

/-- `yearOfEra` finds the year of the era that holds a day. -/
theorem yearOfEra_eraDays (yoe d : Int) (hy : 0 ≤ yoe ∧ yoe < 400) (hd : 0 ≤ d ∧ d < marchYearDays yoe) :
    yearOfEra (eraDays yoe + d) = yoe := by
  -- an era is four centuries of twenty-five four-year cycles of four years
  obtain ⟨f, p, q, hf, hp, hq, rfl⟩ : ∃ f p q, (0 ≤ f ∧ f ≤ 3) ∧ (0 ≤ p ∧ p ≤ 24) ∧ (0 ≤ q ∧ q ≤ 3) ∧
      yoe = 100 * f + 4 * p + q :=
    ⟨yoe / 100, yoe % 100 / 4, yoe % 4, by omega, by omega, by omega, by omega⟩
  have he : eraDays (100 * f + 4 * p + q) = 36524 * f + 1461 * p + 365 * q := by
    unfold eraDays
    omega
  have hlen : d ≤ 365 ∧ (d = 365 → q = 3 ∧ (p < 24 ∨ f = 3)) := by
    unfold marchYearDays isLeap at hd
    split_ifs at hd with h <;> simp only [decide_eq_true_eq] at h <;> omega
  unfold yearOfEra
  rw [he]
  by_cases hlast : f = 3 ∧ p = 24 ∧ q = 3 ∧ d = 365
  · obtain ⟨rfl, rfl, rfl, rfl⟩ := hlast
    norm_num
  · have hc : (36524 * f + 1461 * p + 365 * q + d) / 36524 = f := by omega
    have he : (36524 * f + 1461 * p + 365 * q + d) / 146096 = 0 := by omega
    rw [hc, he]
    omega

/-! ## The dates of a March year -/

/-- A date: a month of the year and a day of that month. -/
def IsDate (date : Int × Nat × Nat) : Prop :=
  1 ≤ date.2.1 ∧ date.2.1 ≤ 12 ∧ 1 ≤ date.2.2 ∧ date.2.2 ≤ daysIn date.2.1 date.1

instance : DecidablePred IsDate := fun _ => inferInstanceAs (Decidable (_ ∧ _ ∧ _ ∧ _))

/-- The date of day `d` (from 0) of the March year `y`, as `civilFromDays` computes it: month `mp`
counted from March starts on day `(153 * mp + 2) / 5`. -/
def marchDate (y d : Int) : Int × Nat × Nat :=
  let mp := (5 * d + 2) / 153
  let day := d - (153 * mp + 2) / 5 + 1
  let m := if mp < 10 then mp + 3 else mp - 9
  ((if m ≤ 2 then y + 1 else y), m.toNat, day.toNat)

/-- `civilFromDays` splits a day number into an era and a day of the era, then into a year of the
era and a day of that March year. -/
theorem civilFromDays_eq_marchDate (z : Int) :
    civilFromDays z =
      let doe := z + 719468 - (z + 719468) / 146097 * 146097
      marchDate (yearOfEra doe + (z + 719468) / 146097 * 400) (doe - eraDays (yearOfEra doe)) :=
  rfl

/-- `civilFromDays` finds the March year of a day and the day within it. -/
theorem civilFromDays_marchStart (y d : Int) (hd : 0 ≤ d ∧ d < marchYearDays y) :
    civilFromDays (marchStart y + d - 719468) = marchDate y d := by
  have hd' : 0 ≤ d ∧ d < marchYearDays (y % 400) := by
    rw [marchYearDays_emod]
    exact hd
  have hlen := marchYearDays_bounds y
  have hz : marchStart y + d - 719468 + 719468 = y / 400 * 146097 + (eraDays (y % 400) + d) := by
    rw [marchStart_eq_era]
    ring
  have hera : (y / 400 * 146097 + (eraDays (y % 400) + d)) / 146097 = y / 400 := by
    have : 0 ≤ eraDays (y % 400) ∧ eraDays (y % 400) + d < 146097 := by
      unfold eraDays
      omega
    omega
  rw [civilFromDays_eq_marchDate]
  dsimp only
  rw [hz, hera, show y / 400 * 146097 + (eraDays (y % 400) + d) - y / 400 * 146097 =
      eraDays (y % 400) + d by ring, yearOfEra_eraDays (y % 400) d ⟨by omega, by omega⟩ hd']
  congr 1 <;> omega

/-- A day of the March year `y` falls in the calendar year `y` up to the end of December, its day
305, and in `y + 1` after. -/
theorem marchDate_year (y d : Int) (hd : 0 ≤ d ∧ d < marchYearDays y) :
    (marchDate y d).1 = if 306 ≤ d then y + 1 else y := by
  have hlen := marchYearDays_bounds y
  unfold marchDate
  dsimp only
  split_ifs <;> omega

/-- Every month but February lasts from its first day to the next month's first day, where month
`mp`, counted from March, starts on day `(153 * mp + 2) / 5` of the March year. -/
theorem daysIn_eq_gap {m : Nat} (h1 : 1 ≤ m) (h12 : m ≤ 12) (h2 : m ≠ 2) (y : Int) :
    (daysIn m y : Int) = (153 * ((if m > 2 then (m : Int) - 3 else (m : Int) + 9) + 1) + 2) / 5 -
      (153 * (if m > 2 then (m : Int) - 3 else (m : Int) + 9) + 2) / 5 := by
  rcases Nat.lt_or_gt_of_ne h2 with h | h
  · obtain rfl : m = 1 := by omega
    rfl
  · interval_cases m <;> rfl

/-- February is what a March year leaves after its first eleven months. -/
theorem daysIn_two (y : Int) : (daysIn 2 y : Int) + 337 = marchYearDays (y - 1) := by
  simp only [daysIn, marchYearDays, sub_add_cancel]
  split_ifs <;> rfl

/-- Each day of a March year is a date. -/
theorem marchDate_isDate (y d : Int) (hd : 0 ≤ d ∧ d < marchYearDays y) : IsDate (marchDate y d) := by
  obtain ⟨mp, hmp⟩ : ∃ mp, (5 * d + 2) / 153 = mp := ⟨_, rfl⟩
  have hb : 153 * mp ≤ 5 * d + 2 ∧ 5 * d + 2 < 153 * mp + 153 := by omega
  have hlen := marchYearDays_bounds y
  unfold IsDate marchDate
  rw [hmp]
  dsimp only
  by_cases h10 : mp < 10
  · have hgap := daysIn_eq_gap (m := (mp + 3).toNat) (by omega) (by omega) (by omega) y
    simp only [h10, ↓reduceIte, show ¬mp + 3 ≤ 2 by omega]
    have hnext : d + 1 ≤ (153 * (mp + 1) + 2) / 5 := by omega
    have hm : ((mp + 3).toNat : Int) - 3 = mp := by omega
    rw [if_pos (by omega), hm] at hgap
    omega
  by_cases h11 : mp = 11
  · subst h11
    have hfeb := daysIn_two (y + 1)
    rw [add_sub_cancel_right] at hfeb
    simp only [show ¬(11 : Int) < 10 by decide, ↓reduceIte, show (11 : Int) - 9 ≤ 2 by decide]
    have h2 : (11 - 9 : Int).toNat = 2 := rfl
    rw [h2]
    omega
  · obtain rfl : mp = 10 := by omega
    have hjan := daysIn_eq_gap (m := 1) (by omega) (by omega) (by omega) (y + 1)
    simp only [show ¬(10 : Int) < 10 by decide, ↓reduceIte, show (10 : Int) - 9 ≤ 2 by decide]
    have h1 : (10 - 9 : Int).toNat = 1 := rfl
    rw [h1]
    norm_num at hjan
    omega

/-- `daysFromCivil` counts from 1 March of the March year of the date. -/
theorem daysFromCivil_eq_marchStart (y : Int) (m : Nat) (d : Int) :
    daysFromCivil y m d = marchStart (if m ≤ 2 then y - 1 else y) +
      (153 * (if m > 2 then (m : Int) - 3 else m + 9) + 2) / 5 + d - 1 - 719468 := by
  rw [marchStart_eq_era]
  unfold daysFromCivil eraDays
  dsimp only
  split_ifs <;> omega

/-- `daysFromCivil` gives a day of a March year back its number. -/
theorem daysFromCivil_marchDate (y d : Int) (hd : 0 ≤ d ∧ d < marchYearDays y) :
    daysFromCivil (marchDate y d).1 (marchDate y d).2.1 (marchDate y d).2.2 = marchStart y + d - 719468 := by
  obtain ⟨mp, hmp⟩ : ∃ mp, (5 * d + 2) / 153 = mp := ⟨_, rfl⟩
  have hb : 153 * mp ≤ 5 * d + 2 ∧ 5 * d + 2 < 153 * mp + 153 := by omega
  have hlen := marchYearDays_bounds y
  rw [daysFromCivil_eq_marchStart]
  unfold marchDate
  rw [hmp]
  dsimp only
  by_cases h10 : mp < 10
  · have hy : ¬mp + 3 ≤ 2 := by omega
    have hm : ¬(mp + 3).toNat ≤ 2 := by omega
    have hm' : (mp + 3).toNat > 2 := by omega
    simp only [h10, hy, hm, hm', ↓reduceIte]
    omega
  · have hy : mp - 9 ≤ 2 := by omega
    have hm : (mp - 9).toNat ≤ 2 := by omega
    have hm' : ¬(mp - 9).toNat > 2 := by omega
    simp only [h10, hy, hm, hm', ↓reduceIte, add_sub_cancel_right]
    omega

/-- Every date is a day of a March year: of the one before for January and February. -/
theorem exists_marchDate {D : Int × Nat × Nat} (h : IsDate D) :
    ∃ y d, (0 ≤ d ∧ d < marchYearDays y) ∧ marchDate y d = D := by
  obtain ⟨yr, m, dd⟩ := D
  obtain ⟨hm1, hm12, hd1, hdm⟩ := h
  dsimp only at hm1 hm12 hd1 hdm
  obtain ⟨mp, hmp⟩ : ∃ mp : Int, mp = if m > 2 then (m : Int) - 3 else m + 9 := ⟨_, rfl⟩
  have hin : (153 * mp + 2) / 5 + dd - 1 < (153 * (mp + 1) + 2) / 5 ∧
      (153 * mp + 2) / 5 + dd - 1 < marchYearDays (if m ≤ 2 then yr - 1 else yr) := by
    have hlen := marchYearDays_bounds (if m ≤ 2 then yr - 1 else yr)
    by_cases h2 : m = 2
    · subst h2
      have hfeb := daysIn_two yr
      simp only [hmp, show ¬(2 > 2) by decide, ↓reduceIte, show 2 ≤ 2 by decide] at hlen ⊢
      omega
    · have hgap := daysIn_eq_gap hm1 hm12 h2 yr
      rw [← hmp] at hgap
      constructor
      · omega
      · split_ifs at hmp <;> omega
  have key : (5 * ((153 * mp + 2) / 5 + dd - 1) + 2) / 153 = mp := by
    have hx1 : 153 * mp ≤ 5 * ((153 * mp + 2) / 5 + dd - 1) + 2 := by omega
    have hx2 : 5 * ((153 * mp + 2) / 5 + dd - 1) + 2 < 153 * mp + 153 := by omega
    omega
  refine ⟨if m ≤ 2 then yr - 1 else yr, (153 * mp + 2) / 5 + dd - 1, ⟨by omega, hin.2⟩, ?_⟩
  unfold marchDate
  rw [key]
  dsimp only
  simp only [Prod.mk.injEq]
  split_ifs at hmp ⊢ <;> omega

/-! ## Day numbers and dates -/

/-- The date of every day number is a date. -/
theorem isDate_civilFromDays (z : Int) : IsDate (civilFromDays z) := by
  obtain ⟨y, d, h0, h1, hz⟩ := exists_marchStart (z + 719468)
  rw [show z = marchStart y + d - 719468 by omega, civilFromDays_marchStart y d ⟨h0, h1⟩]
  exact marchDate_isDate y d ⟨h0, h1⟩

theorem daysFromCivil_civilFromDays (z : Int) :
    daysFromCivil (civilFromDays z).1 (civilFromDays z).2.1 (civilFromDays z).2.2 = z := by
  obtain ⟨y, d, h0, h1, hz⟩ := exists_marchStart (z + 719468)
  rw [show z = marchStart y + d - 719468 by omega, civilFromDays_marchStart y d ⟨h0, h1⟩]
  exact daysFromCivil_marchDate y d ⟨h0, h1⟩

theorem civilFromDays_daysFromCivil {D : Int × Nat × Nat} (h : IsDate D) :
    civilFromDays (daysFromCivil D.1 D.2.1 D.2.2) = D := by
  obtain ⟨y, d, hd, hD⟩ := exists_marchDate h
  rw [← hD, daysFromCivil_marchDate y d hd, civilFromDays_marchStart y d hd]

/-! ## Counting days -/

/-- The day after a date. -/
def nextDay : Int × Nat × Nat → Int × Nat × Nat
  | (y, m, d) => if d < daysIn m y then (y, m, d + 1) else if m < 12 then (y, m + 1, 1) else (y + 1, 1, 1)

/-- The day before a date. -/
def prevDay : Int × Nat × Nat → Int × Nat × Nat
  | (y, m, d) => if 1 < d then (y, m, d - 1) else if 1 < m then (y, m - 1, daysIn (m - 1) y) else (y - 1, 12, 31)

/-- The date of day number `z`, counted from 1970-01-01 (day 0) one day at a time. -/
def dateOfDay : Int → Int × Nat × Nat
  | .ofNat k => nextDay^[k] (1970, 1, 1)
  | .negSucc k => prevDay^[k + 1] (1970, 1, 1)

theorem daysIn_ge (m : Nat) (y : Int) : 28 ≤ daysIn m y := by
  unfold daysIn
  split <;> (try split) <;> omega

theorem daysIn_twelve (y : Int) : daysIn 12 y = 31 := rfl

theorem isDate_nextDay {D : Int × Nat × Nat} (h : IsDate D) : IsDate (nextDay D) := by
  obtain ⟨y, m, d⟩ := D
  obtain ⟨hm1, hm12, hd1, hdm⟩ := h
  dsimp only at hm1 hm12 hd1 hdm
  dsimp only [nextDay, IsDate]
  have := daysIn_ge (m + 1) y
  have := daysIn_ge 1 (y + 1)
  split_ifs <;> simp only <;> omega

/-- The day after a date has the next day number. -/
theorem daysFromCivil_nextDay {D : Int × Nat × Nat} (h : IsDate D) :
    daysFromCivil (nextDay D).1 (nextDay D).2.1 (nextDay D).2.2 = daysFromCivil D.1 D.2.1 D.2.2 + 1 := by
  obtain ⟨y, m, d⟩ := D
  obtain ⟨hm1, hm12, hd1, hdm⟩ := h
  dsimp only at hm1 hm12 hd1 hdm
  dsimp only [nextDay]
  split_ifs with hin hm
  · simp only [daysFromCivil_eq_marchStart]
    push_cast
    ring
  · have hd : d = daysIn m y := by omega
    simp only [daysFromCivil_eq_marchStart]
    push_cast
    by_cases h2 : m = 2
    · subst h2
      have hfeb := daysIn_two y
      have hstep := marchStart_succ (y - 1)
      rw [sub_add_cancel] at hstep
      norm_num
      omega
    · have hgap := daysIn_eq_gap hm1 (by omega) h2 y
      split_ifs at hgap ⊢ <;> omega
  · obtain rfl : m = 12 := by omega
    obtain rfl : d = 31 := by
      rw [daysIn_twelve] at hdm hin
      omega
    simp only [daysFromCivil_eq_marchStart]
    norm_num
    ring

theorem prevDay_nextDay {D : Int × Nat × Nat} (h : IsDate D) : prevDay (nextDay D) = D := by
  obtain ⟨y, m, d⟩ := D
  obtain ⟨hm1, hm12, hd1, hdm⟩ := h
  dsimp only at hm1 hm12 hd1 hdm
  dsimp only [nextDay]
  split_ifs with hin hm
  · simp only [prevDay, if_pos (show 1 < d + 1 by omega), Nat.add_sub_cancel]
  · obtain rfl : d = daysIn m y := by omega
    simp only [prevDay, lt_irrefl, if_false, if_pos (show 1 < m + 1 by omega), Nat.add_sub_cancel]
  · obtain rfl : m = 12 := by omega
    obtain rfl : d = 31 := by
      rw [daysIn_twelve] at hdm hin
      omega
    simp [prevDay]

/-- The date of the next day number is the day after. -/
theorem civilFromDays_succ (z : Int) : civilFromDays (z + 1) = nextDay (civilFromDays z) := by
  have hD := isDate_civilFromDays z
  conv_lhs => rw [← daysFromCivil_civilFromDays z, ← daysFromCivil_nextDay hD]
  exact civilFromDays_daysFromCivil (isDate_nextDay hD)

/-- The date of the day number before is the day before. -/
theorem civilFromDays_pred (z : Int) : civilFromDays (z - 1) = prevDay (civilFromDays z) := by
  have h := civilFromDays_succ (z - 1)
  rw [sub_add_cancel] at h
  rw [h, prevDay_nextDay (isDate_civilFromDays _)]

theorem dateOfDay_natCast (k : Nat) : dateOfDay k = nextDay^[k] (1970, 1, 1) := rfl

theorem dateOfDay_neg (k : Nat) : dateOfDay (-k) = prevDay^[k] (1970, 1, 1) := by
  cases k with
  | zero => rfl
  | succ k => rfl

/-- `civilFromDays` is the date reached by counting days from 1970-01-01. -/
theorem civilFromDays_eq_dateOfDay (z : Int) : civilFromDays z = dateOfDay z := by
  induction z using Int.induction_on with
  | zero => decide
  | succ i ih =>
    rw [civilFromDays_succ, ih, ← Nat.cast_succ, dateOfDay_natCast, dateOfDay_natCast,
      Function.iterate_succ_apply']
  | pred i ih =>
    rw [civilFromDays_pred, ih, show -(i : Int) - 1 = -((i + 1 : Nat) : Int) by push_cast; ring,
      dateOfDay_neg, dateOfDay_neg, Function.iterate_succ_apply']

example : civilFromDays (-1) = (1969, 12, 31) := by decide

example : civilFromDays 11016 = (2000, 2, 29) := by decide

end Calendar

end SwapArchive
