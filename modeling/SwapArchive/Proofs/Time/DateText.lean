import Mathlib
import SwapArchive.Proofs.Time.Gregorian
import SwapArchive.Swap.Units

/-!
# Dates and clock times as text

An instant is shown as a date `DD-MM-YYYY` and a twelve-hour clock `hh:mmam`, and stored as a date
`YYYY-MM-DD` read back from the shown one. Here the texts are spelled digit by digit
(`fixedDigits`, `shownDate`, `isoDate`, `clockText`) and the writers of `TimeText` are shown to
write them (`TimeText.pad_eq_fixedDigits`). Reading a shown date gives back the first second of its
day (`Layout.read_dayMonthYear`), so a shown date of a four-digit year is stored as the same date
(`Units.sqlDate_shownDate`), and the stored date of an instant is the `YYYY-MM-DD` text of its UTC
day whenever its year has four digits (`Units.sqlDate_displayDateTime`): the rewriting never fails.
-/

namespace SwapArchive

set_option autoImplicit false

/-! ## Fixed-width decimals -/

/-- The last `w` decimal digits of `n`, the most significant first. -/
def fixedDigits : Nat → Nat → List Char
  | 0, _ => []
  | w + 1, n => fixedDigits w (n / 10) ++ [Nat.digitChar (n % 10)]

/-- A date `(year, month, day)` as `YYYY-MM-DD`, for a year of four digits. -/
def isoDate (date : Int × Nat × Nat) : String :=
  String.ofList (fixedDigits 4 date.1.toNat ++ '-' :: fixedDigits 2 date.2.1 ++ '-' :: fixedDigits 2 date.2.2)

/-- A date `(year, month, day)` as `DD-MM-YYYY`, for a year of four digits. -/
def shownDate (date : Int × Nat × Nat) : String :=
  String.ofList (fixedDigits 2 date.2.2 ++ '-' :: fixedDigits 2 date.2.1 ++ '-' :: fixedDigits 4 date.1.toNat)

/-- The time `hour:minute` on the twelve-hour clock: `hh:mm` then `am` before noon and `pm` after,
the hours 0 and 12 shown as 12. -/
def clockText (hour minute : Nat) : String :=
  String.ofList (fixedDigits 2 (if hour % 12 = 0 then 12 else hour % 12) ++ ':' :: fixedDigits 2 minute) ++
    (if hour < 12 then "am" else "pm")

@[simp] theorem length_fixedDigits (w n : Nat) : (fixedDigits w n).length = w := by
  induction w generalizing n with
  | zero => rfl
  | succ w ih => simp [fixedDigits, ih]

/-- Below `10 ^ w`, the `w` digits of `n` are its decimal digits after enough zeros. -/
theorem fixedDigits_eq_toDigits {w n : Nat} (hw : 1 ≤ w) (hn : n < 10 ^ w) :
    fixedDigits w n = List.replicate (w - (Nat.toDigits 10 n).length) '0' ++ Nat.toDigits 10 n := by
  induction w, hw using Nat.le_induction generalizing n with
  | base =>
    rw [Nat.toDigits_of_lt_base (by omega)]
    simp [fixedDigits, Nat.mod_eq_of_lt (show n < 10 by omega)]
  | succ w hw ih =>
    by_cases hsmall : n < 10
    · have h0 := ih (n := 0) (Nat.pow_pos (by norm_num))
      rw [Nat.toDigits_of_lt_base hsmall]
      rw [Nat.toDigits_zero] at h0
      simp only [fixedDigits, Nat.div_eq_of_lt hsmall, Nat.mod_eq_of_lt hsmall, h0, List.length_singleton]
      rw [← List.replicate_succ', Nat.sub_add_cancel hw, Nat.add_sub_cancel]
    · have hq : n / 10 < 10 ^ w := by
        rw [pow_succ] at hn
        omega
      rw [Nat.toDigits_of_base_le (by norm_num) (by omega)]
      simp only [fixedDigits, ih hq, List.length_append, List.length_singleton, List.append_assoc]
      congr 2
      omega

namespace TimeText

/-- Below `10 ^ w`, padding to `w` digits writes the `w` digits. -/
theorem pad_eq_fixedDigits {w n : Nat} (hw : 1 ≤ w) (hn : n < 10 ^ w) :
    pad w n = String.ofList (fixedDigits w n) := by
  rw [fixedDigits_eq_toDigits hw hn, pad]
  simp [String.ofList_append, Nat.repr_eq_ofList_toDigits]

theorem year_of_nonneg {y : Int} (h : 0 ≤ y) : year y = pad 4 y.toNat := by
  unfold year
  rw [if_neg (by omega)]

/-- A reading whose year has four digits is written `YYYY-MM-DD`. -/
theorem date_eq_isoDate (c : Civil) (hy : 0 ≤ c.year ∧ c.year < 10000) (hm : c.month < 100)
    (hd : c.day < 100) : date c = isoDate (c.year, c.month, c.day) := by
  rw [date, isoDate, year_of_nonneg hy.1, pad_eq_fixedDigits (by norm_num) (by norm_num; omega),
    pad_eq_fixedDigits (by norm_num) (by norm_num; omega), pad_eq_fixedDigits (by norm_num) (by norm_num; omega)]
  simp [String.ofList_append, String.append_assoc]

/-- A reading whose year has four digits is shown `DD-MM-YYYY`. -/
theorem dayMonthYear_eq (c : Civil) (hy : 0 ≤ c.year ∧ c.year < 10000) (hm : c.month < 100)
    (hd : c.day < 100) :
    dayMonthYear c =
      String.ofList (fixedDigits 2 c.day ++ '-' :: fixedDigits 2 c.month ++ '-' :: fixedDigits 4 c.year.toNat) := by
  rw [dayMonthYear, year_of_nonneg hy.1, pad_eq_fixedDigits (by norm_num) (by norm_num; omega),
    pad_eq_fixedDigits (by norm_num) (by norm_num; omega), pad_eq_fixedDigits (by norm_num) (by norm_num; omega)]
  simp [String.ofList_append, String.append_assoc]

theorem clock12_eq_clockText (c : Civil) (hm : c.minute < 60) : clock12 c = clockText c.hour c.minute := by
  have hh : (if c.hour % 12 = 0 then 12 else c.hour % 12) < 10 ^ 2 := by split_ifs <;> omega
  rw [clock12, clockText, pad_eq_fixedDigits (by norm_num) hh,
    pad_eq_fixedDigits (by norm_num) (show c.minute < 10 ^ 2 by omega)]
  simp [String.ofList_append, String.append_assoc]

end TimeText

/-! ## Reading a shown date back -/

namespace TimeRead

theorem digitChar_reads : ∀ k, k < 10 → isDigit (Nat.digitChar k) = true ∧ digitValue (Nat.digitChar k) = k := by
  decide

/-- Two digits are read as their value. -/
theorem number_fixedDigits {n : Nat} (hn : n < 100) (rest : List Char) :
    number true (fixedDigits 2 n ++ rest) = some (n, rest) := by
  obtain ⟨ha, ha'⟩ := digitChar_reads (n / 10 % 10) (by omega)
  obtain ⟨hb, hb'⟩ := digitChar_reads (n % 10) (by omega)
  have htwo : fixedDigits 2 n = [Nat.digitChar (n / 10 % 10), Nat.digitChar (n % 10)] := by
    simp [fixedDigits]
  rw [htwo]
  simp only [List.cons_append, List.nil_append, number, ha, hb, if_true, ha', hb']
  congr 2
  omega

theorem foldl_fixedDigits (w n a : Nat) :
    (fixedDigits w n).foldl (fun acc c => acc * 10 + digitValue c) a = a * 10 ^ w + n % 10 ^ w := by
  induction w generalizing n with
  | zero => simp [fixedDigits, Nat.mod_one]
  | succ w ih =>
    rw [fixedDigits, List.foldl_append, ih, List.foldl_cons, List.foldl_nil,
      (digitChar_reads _ (Nat.mod_lt n (by norm_num))).2, Nat.pow_succ, Nat.mul_comm (10 ^ w) 10, Nat.mod_mul]
    ring

theorem all_isDigit_fixedDigits (w n : Nat) : (fixedDigits w n).all isDigit = true := by
  induction w generalizing n with
  | zero => rfl
  | succ w ih =>
    simp only [fixedDigits, List.all_append, ih, List.all_cons, List.all_nil,
      (digitChar_reads _ (Nat.mod_lt n (by norm_num))).1, Bool.and_self]

theorem skip_dash (rest : List Char) : skip "-".toList ('-' :: rest) = .ok rest := by
  simp [skip]

/-- The fields of `DD-MM-YYYY` are read in turn, the month checked for range. -/
theorem parts_dayMonthYear (whole value : String) {d m y : Nat} (hd : d < 100) (hm : 1 ≤ m ∧ m ≤ 12)
    (hy : y < 10000) :
    parts whole value Layout.dayMonthYear
        ⟨fixedDigits 2 d ++ '-' :: fixedDigits 2 m ++ '-' :: fixedDigits 4 y, {}⟩ =
      .ok ⟨[], { day := d, month := m, year := y }⟩ := by
  have hlen : (fixedDigits 4 y).length = 4 := length_fixedDigits 4 y
  simp only [Layout.dayMonthYear, parts, List.append_assoc, List.cons_append, number_fixedDigits hd,
    skip_dash, number_fixedDigits (show m < 100 by omega), List.take_of_length_le (le_of_eq hlen),
    List.drop_of_length_le (le_of_eq hlen), hlen, all_isDigit_fixedDigits, foldl_fixedDigits]
  rw [if_neg (by omega), Nat.mod_eq_of_lt (show y < 10 ^ 4 by norm_num [hy])]
  simp

end TimeRead

namespace Zone

theorem utc_lookup (s : Int) : utc.lookup s = ⟨0, alpha, omega, false⟩ := rfl

end Zone

namespace Calendar

/-- Day numbers of the years 0 to 9999 are small. -/
theorem daysFromCivil_bounds {y : Int} {m d : Nat} (h : IsDate (y, m, d)) (hy : 0 ≤ y ∧ y < 10000) :
    -719528 ≤ daysFromCivil y m d ∧ daysFromCivil y m d < 2932897 := by
  obtain ⟨hm1, hm12, hd1, hdm⟩ := h
  dsimp only at hm1 hm12 hd1 hdm
  have h31 : d ≤ 31 := le_trans hdm (by unfold daysIn; split <;> (try split) <;> omega)
  rw [daysFromCivil_eq_marchStart]
  unfold marchStart
  split_ifs <;> omega

theorem firstSecond_eq : firstSecond = -9223372028741760000 := by decide

/-- Seconds well inside the words are read as they are. -/
theorem readable_of_small {s : Int} (h : -2 ^ 62 ≤ s ∧ s < 2 ^ 62) : readable s = s := by
  have hm : Word.modulus64 = 18446744073709551616 := by decide
  unfold readable
  rw [firstSecond_eq, hm, Int.emod_eq_of_lt (by omega) (by omega)]
  ring

end Calendar

namespace Civil

/-- The UTC reading of an instant: the date of its day and the time within the day. -/
theorem ofInstant_utc (t : Instant) (h : -2 ^ 62 ≤ t.sec ∧ t.sec < 2 ^ 62) :
    ofInstant t 0 =
      ⟨(Calendar.civilFromDays (t.sec / 86400)).1, (Calendar.civilFromDays (t.sec / 86400)).2.1,
        (Calendar.civilFromDays (t.sec / 86400)).2.2, (t.sec % 86400).toNat / 3600,
        (t.sec % 86400).toNat / 60 % 60, (t.sec % 86400).toNat % 60, t.nsec⟩ := by
  unfold ofInstant
  rw [add_zero, Calendar.readable_of_small h]

end Civil

namespace Layout

/-- Reading `DD-MM-YYYY` gives the first second of that day. -/
theorem read_dayMonthYear {y : Int} {m d : Nat} (hD : Calendar.IsDate (y, m, d)) (hy : 0 ≤ y ∧ y < 10000) :
    dayMonthYear.read (String.ofList (fixedDigits 2 d ++ '-' :: fixedDigits 2 m ++ '-' :: fixedDigits 4 y.toNat)) =
      .ok ⟨Calendar.daysFromCivil y m d * 86400, 0⟩ := by
  obtain ⟨hm1, hm12, hd1, hdm⟩ := hD
  dsimp only at hm1 hm12 hd1 hdm
  have hd : d ≤ 31 := le_trans hdm (by unfold Calendar.daysIn; split <;> (try split) <;> omega)
  have hb := Calendar.daysFromCivil_bounds ⟨hm1, hm12, hd1, hdm⟩ hy
  have hm : Word.min64 = -9223372036854775808 ∧ Word.modulus64 = 18446744073709551616 := ⟨by decide, by decide⟩
  have hwrap : Word.wrap64 (Calendar.daysFromCivil y m d * 86400) = Calendar.daysFromCivil y m d * 86400 :=
    Word.wrap64_of_range _ (by omega) (by omega)
  unfold read
  dsimp only
  rw [String.toList_ofList, TimeRead.parts_dayMonthYear _ _ (by omega) ⟨hm1, hm12⟩ (by omega)]
  simp only [bind, Except.bind, Int.toNat_of_nonneg hy.1]
  rw [if_neg (by omega)]
  simp [pure, Except.pure, Zone.date, Zone.utc_lookup, hwrap, Instant.addSeconds,
    show (((m : Int) - 1) % 12 + 1).toNat = m by omega, show ((m : Int) - 1) / 12 = 0 by omega]

end Layout

namespace Civil

/-- The first second of a day of a four-digit year reads as midnight of that day. -/
theorem ofInstant_dayStart {y : Int} {m d : Nat} (hD : Calendar.IsDate (y, m, d)) (hy : 0 ≤ y ∧ y < 10000) :
    ofInstant ⟨Calendar.daysFromCivil y m d * 86400, 0⟩ 0 = ⟨y, m, d, 0, 0, 0, 0⟩ := by
  have hb := Calendar.daysFromCivil_bounds hD hy
  rw [ofInstant_utc _ ⟨by simp only; omega, by simp only; omega⟩]
  simp only [Int.mul_ediv_cancel _ (show (86400 : Int) ≠ 0 by norm_num), Int.mul_emod_left,
    Calendar.civilFromDays_daysFromCivil hD]
  rfl

end Civil

namespace Units

/-- A shown date of a four-digit year is stored as the same date written `YYYY-MM-DD`. -/
theorem sqlDate_shownDate {y : Int} {m d : Nat} (hD : Calendar.IsDate (y, m, d)) (hy : 0 ≤ y ∧ y < 10000) :
    sqlDate (shownDate (y, m, d)) = .ok (isoDate (y, m, d)) := by
  obtain ⟨hm1, hm12, hd1, hdm⟩ := hD
  dsimp only at hm1 hm12 hd1 hdm
  have hd : d ≤ 31 := le_trans hdm (by unfold Calendar.daysIn; split <;> (try split) <;> omega)
  rw [shownDate, sqlDate, Layout.read_dayMonthYear ⟨hm1, hm12, hd1, hdm⟩ hy]
  simp only [bind, Except.bind, pure, Except.pure, Civil.ofInstant_dayStart ⟨hm1, hm12, hd1, hdm⟩ hy]
  rw [TimeText.date_eq_isoDate _ hy (by dsimp only; omega) (by dsimp only; omega)]

/-- The stored date of an instant is the `YYYY-MM-DD` text of its UTC date, whenever that date has
a year of four digits: reading back the shown date never fails. -/
theorem sqlDate_displayDateTime (t : Instant) (h : -2 ^ 62 ≤ t.sec ∧ t.sec < 2 ^ 62)
    (hy : 0 ≤ (Calendar.civilFromDays (t.sec / 86400)).1 ∧ (Calendar.civilFromDays (t.sec / 86400)).1 < 10000) :
    sqlDate (displayDateTime t).1 = .ok (isoDate (Calendar.civilFromDays (t.sec / 86400))) := by
  have hD := Calendar.isDate_civilFromDays (t.sec / 86400)
  generalize hdate : Calendar.civilFromDays (t.sec / 86400) = D at hD hy
  obtain ⟨y, m, d⟩ := D
  obtain ⟨hm1, hm12, hd1, hdm⟩ := hD
  dsimp only at hm1 hm12 hd1 hdm hy
  have hd : d ≤ 31 := le_trans hdm (by unfold Calendar.daysIn; split <;> (try split) <;> omega)
  have hshown : (displayDateTime t).1 = shownDate (y, m, d) := by
    rw [displayDateTime, Civil.ofInstant_utc t h, hdate]
    exact TimeText.dayMonthYear_eq _ hy (by dsimp only; omega) (by dsimp only; omega)
  rw [hshown]
  exact sqlDate_shownDate ⟨hm1, hm12, hd1, hdm⟩ hy

/-- The shown clock of an instant is its UTC time of day on the twelve-hour clock. -/
theorem displayDateTime_snd (t : Instant) (h : -2 ^ 62 ≤ t.sec ∧ t.sec < 2 ^ 62) :
    (displayDateTime t).2 = clockText ((t.sec % 86400).toNat / 3600) ((t.sec % 86400).toNat / 60 % 60) := by
  rw [displayDateTime, Civil.ofInstant_utc t h]
  exact TimeText.clock12_eq_clockText _ (by simp only; omega)

end Units

end SwapArchive
