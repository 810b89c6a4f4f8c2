import Mathlib
import SwapArchive.Proofs.Time.DateText

/-!
# Which texts a shown date filter accepts

`Units.sqlDate` accepts a text exactly when it is two digits, a dash, two digits, a dash and four
digits naming a valid date of the proleptic Gregorian calendar (`Calendar.IsDate`), and then gives
the same date as `YYYY-MM-DD`. One direction is `Units.sqlDate_shownDate`. The other reads the
layout backwards: each field took exactly the characters of its fixed-width text
(`TimeRead.fixedDigits_digitsValue`), each dash a dash, nothing is left over
(`TimeRead.parts_dayMonthYear_eq_ok`), and the day is within its month or the reading fails.
-/

namespace SwapArchive

set_option autoImplicit false

namespace TimeRead

theorem isDigit_iff (c : Char) : isDigit c = true ↔ 48 ≤ c.toNat ∧ c.toNat ≤ 57 := by
  simp only [isDigit, decide_eq_true_eq]
  rfl

/-- An ASCII digit is the digit character of its value. -/
theorem digitChar_digitValue {c : Char} (h : isDigit c = true) :
    digitValue c < 10 ∧ Nat.digitChar (digitValue c) = c := by
  have hc := (isDigit_iff c).1 h
  obtain ⟨k, hk⟩ : ∃ k, c.toNat = 48 + k := ⟨c.toNat - 48, by omega⟩
  have hk10 : k < 10 := by omega
  rw [← Char.ofNat_toNat c, hk]
  interval_cases k <;> decide

/-- The value of a list of digits, the most significant first, as the year field reads it. -/
abbrev digitsValue (cs : List Char) : Nat := cs.foldl (fun acc c => acc * 10 + digitValue c) 0

/-- A list of ASCII digits is the fixed-width text of its value. -/
theorem fixedDigits_digitsValue {cs : List Char} (h : cs.all isDigit = true) :
    fixedDigits cs.length (digitsValue cs) = cs := by
  -- `fixedDigits` writes the last digit last, so the list is taken apart from its end
  induction cs using List.reverseRecOn with
  | nil => rfl
  | append_singleton cs c ih =>
    simp only [List.all_append, List.all_cons, List.all_nil, Bool.and_true, Bool.and_eq_true] at h
    obtain ⟨hlt, hc⟩ := digitChar_digitValue h.2
    simp only [List.length_append, List.length_singleton, fixedDigits, List.foldl_append,
      List.foldl_cons, List.foldl_nil]
    rw [show (digitsValue cs * 10 + digitValue c) / 10 = digitsValue cs by omega,
      show (digitsValue cs * 10 + digitValue c) % 10 = digitValue c by omega, ih h.1, hc]

theorem digitsValue_lt {cs : List Char} (h : cs.all isDigit = true) : digitsValue cs < 10 ^ cs.length := by
  have hv := foldl_fixedDigits cs.length (digitsValue cs) 0
  rw [fixedDigits_digitsValue h, zero_mul, zero_add] at hv
  change digitsValue cs = _ at hv
  have := Nat.mod_lt (digitsValue cs) (Nat.pow_pos (n := cs.length) (show 0 < 10 by norm_num))
  omega

/-- A two-digit field that reads took the two-digit text of its value. -/
theorem number_true_eq_some {cs rest : List Char} {n : Nat} (h : number true cs = some (n, rest)) :
    n < 100 ∧ cs = fixedDigits 2 n ++ rest := by
  rcases cs with _ | ⟨a, _ | ⟨b, r⟩⟩
  · simp [number] at h
  · simp [number] at h
  · simp only [number] at h
    by_cases ha : isDigit a = true
    · by_cases hb : isDigit b = true
      · simp only [ha, hb, if_true, Option.some.injEq, Prod.mk.injEq] at h
        obtain ⟨rfl, rfl⟩ := h
        have hab : [a, b].all isDigit = true := by simp [ha, hb]
        have hv := fixedDigits_digitsValue hab
        have hlt := digitsValue_lt hab
        simp only [List.foldl_cons, List.foldl_nil, zero_mul, zero_add, List.length_cons,
          List.length_nil] at hv hlt
        exact ⟨by omega, by rw [hv]; rfl⟩
      · simp [ha, hb] at h
    · simp [ha] at h

/-- A dash is skipped only at a dash. -/
theorem skip_dash_eq_ok {cs rest : List Char} (h : skip "-".toList cs = .ok rest) : cs = '-' :: rest := by
  rcases cs with _ | ⟨v, r⟩
  · simp [skip] at h
  · by_cases hv : v = '-'
    · subst hv
      simpa [skip] using h
    · simp [skip, hv] at h

/-- What reading `DD-MM-YYYY` to its end takes: two digits, a dash, two digits naming a month, a
dash and four digits, read as the day, month and year. -/
theorem parts_dayMonthYear_eq_ok {whole value : String} {cs : List Char} {st : State}
    (h : parts whole value Layout.dayMonthYear ⟨cs, {}⟩ = .ok st) :
    ∃ d m y, d < 100 ∧ 1 ≤ m ∧ m ≤ 12 ∧ y < 10000 ∧
      cs = fixedDigits 2 d ++ '-' :: fixedDigits 2 m ++ '-' :: fixedDigits 4 y ∧
      st.fields.day = d ∧ st.fields.month = m ∧ st.fields.year = y := by
  simp only [Layout.dayMonthYear, parts] at h
  rcases hd : number true cs with _ | ⟨d, r₁⟩
  · simp only [hd] at h
    cases h
  rcases hs₁ : skip "-".toList r₁ with _ | r₂
  · simp only [hd, hs₁] at h
    cases h
  rcases hm : number true r₂ with _ | ⟨m, r₃⟩
  · simp only [hd, hs₁, hm] at h
    cases h
  by_cases hmr : m = 0 ∨ m > 12
  · simp only [hd, hs₁, hm, hmr, if_true] at h
    cases h
  rcases hs₂ : skip "-".toList r₃ with _ | r₄
  · simp only [hd, hs₁, hm, hmr, hs₂, if_false] at h
    cases h
  simp only [hd, hs₁, hm, hmr, hs₂, if_false] at h
  by_cases hy : (r₄.take 4).length < 4 ∨ (r₄.take 4).all isDigit = false
  · rw [if_pos (by simpa only [Bool.or_eq_true, decide_eq_true_eq, Bool.not_eq_true'] using hy)] at h
    cases h
  rw [if_neg (by simpa only [Bool.or_eq_true, decide_eq_true_eq, Bool.not_eq_true'] using hy)] at h
  simp only [not_or, not_lt, Bool.not_eq_false] at hy
  have hlen : (r₄.take 4).length = 4 := le_antisymm (List.length_take_le 4 r₄) hy.1
  by_cases hend : (r₄.drop 4).isEmpty = true
  swap
  · rw [if_neg hend] at h
    cases h
  rw [if_pos hend] at h
  cases h
  obtain ⟨d100, hdcs⟩ := number_true_eq_some hd
  obtain ⟨m100, hmcs⟩ := number_true_eq_some hm
  have hr₄ : r₄ = fixedDigits 4 (digitsValue (r₄.take 4)) := by
    have hv := fixedDigits_digitsValue hy.2
    rw [hlen] at hv
    rw [hv, ← List.append_nil (r₄.take 4), ← List.isEmpty_iff.1 hend, List.take_append_drop]
  have hylt := digitsValue_lt hy.2
  rw [hlen] at hylt
  refine ⟨d, m, digitsValue (r₄.take 4), d100, by omega, by omega, by simpa using hylt, ?_, rfl, rfl, rfl⟩
  rw [hdcs, skip_dash_eq_ok hs₁, hmcs, skip_dash_eq_ok hs₂, ← hr₄]
  simp only [List.append_assoc, List.cons_append]

end TimeRead

namespace Layout

/-- A text read as `DD-MM-YYYY` is a valid date of a four-digit year, so written. -/
theorem read_dayMonthYear_eq_ok {s : String} {t : Instant} (h : dayMonthYear.read s = .ok t) :
    ∃ y m d, Calendar.IsDate (y, m, d) ∧ 0 ≤ y ∧ y < 10000 ∧ s = shownDate (y, m, d) := by
  unfold read at h
  simp only [bind, Except.bind] at h
  rcases hp : TimeRead.parts dayMonthYear.spelling s dayMonthYear ⟨s.toList, {}⟩ with e | st
  · simp only [hp] at h
    cases h
  obtain ⟨d, m, y, -, hm1, hm12, hy, hs, hday, hmonth, hyear⟩ := TimeRead.parts_dayMonthYear_eq_ok hp
  simp only [hp, hday, hmonth, hyear] at h
  by_cases hd : d < 1 ∨ d > Calendar.daysIn m y
  · rw [if_pos hd] at h
    cases h
  simp only [not_or, not_lt] at hd
  refine ⟨y, m, d, ⟨hm1, hm12, hd.1, hd.2⟩, by omega, by omega, ?_⟩
  rw [shownDate, Int.toNat_natCast, ← hs, String.ofList_toList]

end Layout

namespace Units

/-- A text stored as a date is a shown date of a four-digit year, stored as that date. -/
theorem sqlDate_eq_ok {s r : String} (h : sqlDate s = .ok r) :
    ∃ y m d, Calendar.IsDate (y, m, d) ∧ 0 ≤ y ∧ y < 10000 ∧ s = shownDate (y, m, d) ∧
      r = isoDate (y, m, d) := by
  rcases hread : Layout.dayMonthYear.read s with e | t
  · simp [sqlDate, hread, bind, Except.bind] at h
  obtain ⟨y, m, d, hD, hy0, hy, rfl⟩ := Layout.read_dayMonthYear_eq_ok hread
  refine ⟨y, m, d, hD, hy0, hy, rfl, ?_⟩
  rw [sqlDate_shownDate hD ⟨hy0, hy⟩] at h
  exact (Except.ok.inj h).symm

/-- Storing a shown date accepts exactly the texts `DD-MM-YYYY` of the valid dates of the years 0
to 9999, and stores each as the same date written `YYYY-MM-DD`; so it undoes the writing of every
date of those years in the shown layout. -/
theorem sqlDate_accepts_exactly_shown_dates :
    (∀ s r : String, sqlDate s = .ok r ↔
      ∃ D : Int × Nat × Nat, Calendar.IsDate D ∧ 0 ≤ D.1 ∧ D.1 < 10000 ∧ s = shownDate D ∧
        r = isoDate D) ∧
    ∀ c : Civil, Calendar.IsDate (c.year, c.month, c.day) → 0 ≤ c.year → c.year < 10000 →
      sqlDate (TimeText.dayMonthYear c) = .ok (TimeText.date c) := by
  refine ⟨fun s r => ⟨fun h => ?_, ?_⟩, fun c hD hy0 hy => ?_⟩
  · obtain ⟨y, m, d, hD, hy0, hy, hs, hr⟩ := sqlDate_eq_ok h
    exact ⟨(y, m, d), hD, hy0, hy, hs, hr⟩
  · rintro ⟨⟨y, m, d⟩, hD, hy0, hy, rfl, rfl⟩
    exact sqlDate_shownDate hD ⟨hy0, hy⟩
  · obtain ⟨-, hm12, -, hdm⟩ := id hD
    dsimp only at hm12 hdm
    have hd : c.day ≤ 31 := le_trans hdm (by unfold Calendar.daysIn; split <;> (try split) <;> omega)
    rw [TimeText.dayMonthYear_eq c ⟨hy0, hy⟩ (by omega) (by omega),
      TimeText.date_eq_isoDate c ⟨hy0, hy⟩ (by omega) (by omega)]
    exact sqlDate_shownDate hD ⟨hy0, hy⟩

end Units

end SwapArchive
