import Mathlib
import SwapArchive.Swap.Units

/-!
# Reading integers written in decimal

A `DecimalText` is an integer written in decimal the way a feed may send it: white space, an
optional `+` or `-`, one or more ASCII digits (leading zeros allowed), white space. Its value is
`DecimalText.value`. Trimming leaves the sign and the digits (`Clean.trim_ofList`), the signed
64-bit reader reads every such text whose value fits (`IntText.parseInt64_body`), and so a
nanosecond timestamp written so is the instant that many nanoseconds after the epoch
(`Units.nanoTimestamp_decimalText`, `Instant.ofNanos_eq`).
-/

namespace SwapArchive

set_option autoImplicit false

/-- An integer written in decimal, with white space around it. -/
structure DecimalText where
  lead : List Char
  sign : Option Char
  digits : List Char
  trail : List Char
  lead_spaces : ∀ c ∈ lead, CharClass.isSpace c = true
  trail_spaces : ∀ c ∈ trail, CharClass.isSpace c = true
  sign_mem : sign = none ∨ sign = some '+' ∨ sign = some '-'
  digits_ne_nil : digits ≠ []
  digits_isDigit : ∀ c ∈ digits, c.isDigit = true

namespace DecimalText

/-- The text itself. -/
def text (d : DecimalText) : String := String.ofList (d.lead ++ d.sign.toList ++ d.digits ++ d.trail)

/-- The value of the digits. -/
def magnitude (d : DecimalText) : Nat := Nat.ofDigitChars 10 d.digits 0

/-- The integer the text writes. -/
def value (d : DecimalText) : Int := if d.sign = some '-' then -(d.magnitude : Int) else d.magnitude

end DecimalText

/-! ## Trimming -/

theorem CharClass.isSpace_of_isDigit {c : Char} (h : c.isDigit = true) : CharClass.isSpace c = false := by
  rw [Char.isDigit_iff_toNat] at h
  simp only [CharClass.isSpace, Bool.or_eq_false_iff, decide_eq_false_iff_not]
  simp at h
  omega

/-- The sign and the digits hold no white space. -/
theorem DecimalText.isSpace_body (d : DecimalText) :
    ∀ c ∈ d.sign.toList ++ d.digits, CharClass.isSpace c = false := by
  intro c hc
  rcases List.mem_append.mp hc with hs | hd
  · rcases d.sign_mem with h | h | h <;> simp [h] at hs <;> subst hs <;> decide
  · exact CharClass.isSpace_of_isDigit (d.digits_isDigit c hd)

namespace Clean

theorem dropSpace_spaces_append {lead : List Char} (hl : ∀ c ∈ lead, CharClass.isSpace c = true)
    (rest : List Char) : dropSpace (lead ++ rest) = dropSpace rest := by
  induction lead with
  | nil => rfl
  | cons c cs ih =>
    rw [List.cons_append, dropSpace, if_pos (hl c List.mem_cons_self)]
    exact ih fun x hx => hl x (List.mem_cons_of_mem c hx)

theorem dropSpace_cons {c : Char} (hc : CharClass.isSpace c = false) (cs : List Char) :
    dropSpace (c :: cs) = c :: cs := by
  simp [dropSpace, hc]

/-- Trimming drops the white space around a body that starts and ends with no white space. -/
theorem trim_ofList {lead body trail : List Char} (hl : ∀ c ∈ lead, CharClass.isSpace c = true)
    (ht : ∀ c ∈ trail, CharClass.isSpace c = true) (hb : body ≠ [])
    (hbody : ∀ c ∈ body, CharClass.isSpace c = false) :
    trim (String.ofList (lead ++ body ++ trail)) = String.ofList body := by
  have hfirst : dropSpace (lead ++ body ++ trail) = body ++ trail := by
    obtain ⟨c, cs, rfl⟩ := List.exists_cons_of_ne_nil hb
    rw [List.append_assoc, dropSpace_spaces_append hl, List.cons_append,
      dropSpace_cons (hbody c List.mem_cons_self)]
  have hlast : dropSpace (body ++ trail).reverse = body.reverse := by
    obtain ⟨d, ds, hd⟩ := List.exists_cons_of_ne_nil (List.reverse_ne_nil_iff.mpr hb)
    have hd' : CharClass.isSpace d = false := hbody d (List.mem_reverse.mp (hd ▸ List.mem_cons_self))
    rw [List.reverse_append, dropSpace_spaces_append (fun c hc => ht c (List.mem_reverse.mp hc)), hd,
      dropSpace_cons hd']
  rw [trim, String.toList_ofList, hfirst, hlast, List.reverse_reverse]

end Clean

/-! ## Reading the digits -/

namespace IntText

theorem le_ofDigitChars (ds : List Char) (acc : Nat) : acc ≤ Nat.ofDigitChars 10 ds acc := by
  rw [Nat.ofDigitChars_eq_ofDigitChars_zero]
  calc acc ≤ 10 ^ ds.length * acc := Nat.le_mul_of_pos_left acc (Nat.pow_pos (by norm_num))
    _ ≤ _ := Nat.le_add_right _ _

/-- Digits whose value stays within the bound are read as their value: the value read so far never
decreases, so no prefix passes the bound first. -/
theorem digitsUpTo_of_le {max : Nat} (ds : List Char) (acc : Nat) (hds : ∀ c ∈ ds, c.isDigit = true)
    (h : Nat.ofDigitChars 10 ds acc ≤ max) : digitsUpTo max acc ds = .ok (Nat.ofDigitChars 10 ds acc) := by
  induction ds generalizing acc with
  | nil => rfl
  | cons c cs ih =>
    have hc : '0' ≤ c ∧ c ≤ '9' := by
      have h := hds c List.mem_cons_self
      simp only [Char.isDigit, Bool.and_eq_true, decide_eq_true_eq] at h
      exact h
    have hstep : acc * 10 + (c.toNat - 48) = 10 * acc + (c.toNat - '0'.toNat) := by
      rw [Nat.mul_comm]
      rfl
    rw [Nat.ofDigitChars_cons] at h ⊢
    have hle := le_ofDigitChars cs (10 * acc + (c.toNat - '0'.toNat))
    rw [digitsUpTo, if_pos hc]
    dsimp only
    rw [hstep, if_neg (by omega)]
    exact ih _ (fun x hx => hds x (List.mem_cons_of_mem c hx)) h

theorem magnitude_of_digits {bits : Nat} {ds : List Char} (hd : ds ≠ []) (hds : ∀ c ∈ ds, c.isDigit = true)
    (h : Nat.ofDigitChars 10 ds 0 ≤ Nat.pow 2 bits - 1) : magnitude bits ds = .ok (Nat.ofDigitChars 10 ds 0) := by
  rw [magnitude, if_neg (by simpa using hd)]
  exact digitsUpTo_of_le ds 0 hds h

/-- A signed decimal whose value is a signed 64-bit word reads as that value. -/
theorem parseInt64_body (d : DecimalText) (hlo : -2 ^ 63 ≤ d.value) (hhi : d.value < 2 ^ 63) :
    parseInt64 (String.ofList (d.sign.toList ++ d.digits)) = .ok d.value := by
  have h63 : Nat.pow 2 (64 - 1) = 9223372036854775808 := rfl
  have hv : d.value = if d.sign = some '-' then -(d.magnitude : Int) else d.magnitude := rfl
  have hm : d.magnitude = Nat.ofDigitChars 10 d.digits 0 := rfl
  have hread : magnitude 64 d.digits = .ok d.magnitude := by
    have hle : d.magnitude ≤ 9223372036854775808 := by
      rw [hv] at hlo hhi
      split_ifs at hlo hhi <;> omega
    rw [hm]
    exact magnitude_of_digits d.digits_ne_nil d.digits_isDigit (by rw [← hm]; exact le_trans hle (by decide))
  obtain ⟨c, cs, hcs⟩ := List.exists_cons_of_ne_nil d.digits_ne_nil
  have hc : c ≠ '+' ∧ c ≠ '-' := by
    have := d.digits_isDigit c (by rw [hcs]; exact List.mem_cons_self)
    constructor <;> rintro rfl <;> revert this <;> decide
  unfold parseInt64 parse
  rw [String.toList_ofList]
  rcases d.sign_mem with hs | hs | hs
  · rw [hv, if_neg (by simp [hs])] at hhi ⊢
    simp only [hs, Option.toList_none, List.nil_append, hcs, List.cons.injEq, hc.1, hc.2, false_and,
      imp_self, implies_true, Bool.false_eq_true, ↓reduceIte]
    rw [← hcs, hread]
    dsimp only
    rw [if_neg (by omega)]
  · rw [hv, if_neg (by simp [hs])] at hhi ⊢
    simp only [hs, Option.toList_some, List.cons_append, List.nil_append, hread, Bool.false_eq_true,
      ↓reduceIte, h63]
    rw [if_neg (by omega)]
  · rw [hv, if_pos hs] at hlo ⊢
    simp only [hs, Option.toList_some, List.cons_append, List.nil_append, hread, ↓reduceIte, h63]
    rw [if_neg (by omega)]

end IntText

/-! ## Nanosecond timestamps -/

/-- A nanosecond timestamp written in decimal is the instant that many nanoseconds after the epoch. -/
theorem Units.nanoTimestamp_decimalText (d : DecimalText) (hlo : -2 ^ 63 ≤ d.value) (hhi : d.value < 2 ^ 63) :
    Units.nanoTimestamp d.text = .ok (Instant.ofNanos d.value) := by
  have hbody : d.sign.toList ++ d.digits ≠ [] := by simp [d.digits_ne_nil]
  rw [Units.nanoTimestamp, DecimalText.text, List.append_assoc d.lead,
    Clean.trim_ofList d.lead_spaces d.trail_spaces hbody d.isSpace_body, IntText.parseInt64_body d hlo hhi]
  rfl

/-- The instant of a 64-bit count of nanoseconds: the seconds rounded down, and the nanoseconds
left over. -/
theorem Instant.ofNanos_eq {n : Int} (hlo : -2 ^ 63 ≤ n) (hhi : n < 2 ^ 63) :
    Instant.ofNanos n = ⟨n / 1000000000, (n % 1000000000).toNat⟩ := by
  have hm : Word.min64 = -9223372036854775808 ∧ Word.modulus64 = 18446744073709551616 := ⟨by decide, by decide⟩
  rw [Instant.ofNanos, Instant.ofUnix, zero_add, Word.wrap64_of_range _ (by omega) (by omega)]

end SwapArchive
