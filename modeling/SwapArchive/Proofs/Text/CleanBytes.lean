import Mathlib
import SwapArchive.Text.Clean

/-!
# Cleaning strings of bytes

A string of bytes is read leniently (`Bytes.chars`): a well-formed UTF-8 sequence is its
character, any other byte U+FFFD. Two round trips hold: the encoding of any characters reads back
as them (`Bytes.chars_flatMap_encode`), a character's encoding being a well-formed sequence of its
own length; and bytes whose reading has no U+FFFD are the encoding of their reading
(`Bytes.flatMap_encode_chars`). So `Clean.sanitizeBytes`, which returns its input untouched when
it keeps every character, is the encoding of the kept characters in every case
(`Clean.sanitizeBytes_eq`): valid UTF-8 with no U+FFFD, unchanged by cleaning again, empty exactly
when nothing is kept, and on the bytes of a text equal to `Clean.sanitize`.
-/

namespace SwapArchive

set_option autoImplicit false

namespace Bytes

/-! ## The length of a well-formed sequence -/

theorem sequenceLength_one {b : UInt8} (rest : List UInt8) (hb : b.toNat < 0x80) :
    sequenceLength (b :: rest) = 1 := by
  simp [sequenceLength, UInt8.lt_iff_toNat_lt, hb]

theorem sequenceLength_two {b c : UInt8} (rest : List UInt8) (hb : 0xC2 ≤ b.toNat ∧ b.toNat ≤ 0xDF)
    (hc : 0x80 ≤ c.toNat ∧ c.toNat < 0xC0) : sequenceLength (b :: c :: rest) = 2 := by
  have h1 : ¬b < 0x80 := by rw [UInt8.lt_iff_toNat_lt]; simp; omega
  have h2 : 0xC2 ≤ b ∧ b ≤ 0xDF := by simp only [UInt8.le_iff_toNat_le]; simp; omega
  have h3 : isCont c = true := by
    simp only [isCont, UInt8.le_iff_toNat_le, UInt8.lt_iff_toNat_lt]; simp; omega
  simp only [sequenceLength, h1, h2, h3, if_false, if_true, and_self]

theorem sequenceLength_three {b c d : UInt8} (rest : List UInt8)
    (hb : 0xE0 ≤ b.toNat ∧ b.toNat ≤ 0xEF) (hc : 0x80 ≤ c.toNat ∧ c.toNat ≤ 0xBF)
    (hlo : b.toNat = 0xE0 → 0xA0 ≤ c.toNat) (hhi : b.toNat = 0xED → c.toNat ≤ 0x9F)
    (hd : 0x80 ≤ d.toNat ∧ d.toNat < 0xC0) : sequenceLength (b :: c :: d :: rest) = 3 := by
  have h1 : ¬b < 0x80 := by rw [UInt8.lt_iff_toNat_lt]; simp; omega
  have h2 : ¬(0xC2 ≤ b ∧ b ≤ 0xDF) := by simp only [UInt8.le_iff_toNat_le]; simp; omega
  have h3 : 0xE0 ≤ b ∧ b ≤ 0xEF := by simp only [UInt8.le_iff_toNat_le]; simp; omega
  -- the second byte's range narrows after E0 (no overlong form) and ED (no surrogate)
  have h4 : (if b = 0xE0 then (0xA0 : UInt8) else 0x80) ≤ c := by
    split_ifs with h
    · rw [UInt8.le_iff_toNat_le]; simp; exact hlo (by rw [h]; rfl)
    · rw [UInt8.le_iff_toNat_le]; simp; omega
  have h5 : c ≤ (if b = 0xED then (0x9F : UInt8) else 0xBF) := by
    split_ifs with h
    · rw [UInt8.le_iff_toNat_le]; simp; exact hhi (by rw [h]; rfl)
    · rw [UInt8.le_iff_toNat_le]; simp; omega
  have h6 : isCont d = true := by
    simp only [isCont, UInt8.le_iff_toNat_le, UInt8.lt_iff_toNat_lt]; simp; omega
  simp only [sequenceLength, h1, h2, h3, h4, h5, h6, if_false, if_true, and_self]

theorem sequenceLength_four {b c d e : UInt8} (rest : List UInt8)
    (hb : 0xF0 ≤ b.toNat ∧ b.toNat ≤ 0xF4) (hc : 0x80 ≤ c.toNat ∧ c.toNat ≤ 0xBF)
    (hlo : b.toNat = 0xF0 → 0x90 ≤ c.toNat) (hhi : b.toNat = 0xF4 → c.toNat ≤ 0x8F)
    (hd : 0x80 ≤ d.toNat ∧ d.toNat < 0xC0) (he : 0x80 ≤ e.toNat ∧ e.toNat < 0xC0) :
    sequenceLength (b :: c :: d :: e :: rest) = 4 := by
  have h1 : ¬b < 0x80 := by rw [UInt8.lt_iff_toNat_lt]; simp; omega
  have h2 : ¬(0xC2 ≤ b ∧ b ≤ 0xDF) := by simp only [UInt8.le_iff_toNat_le]; simp; omega
  have h3 : ¬(0xE0 ≤ b ∧ b ≤ 0xEF) := by simp only [UInt8.le_iff_toNat_le]; simp; omega
  have h4 : 0xF0 ≤ b ∧ b ≤ 0xF4 := by simp only [UInt8.le_iff_toNat_le]; simp; omega
  have h5 : (if b = 0xF0 then (0x90 : UInt8) else 0x80) ≤ c := by
    split_ifs with h
    · rw [UInt8.le_iff_toNat_le]; simp; exact hlo (by rw [h]; rfl)
    · rw [UInt8.le_iff_toNat_le]; simp; omega
  have h6 : c ≤ (if b = 0xF4 then (0x8F : UInt8) else 0xBF) := by
    split_ifs with h
    · rw [UInt8.le_iff_toNat_le]; simp; exact hhi (by rw [h]; rfl)
    · rw [UInt8.le_iff_toNat_le]; simp; omega
  have h7 : isCont d = true := by
    simp only [isCont, UInt8.le_iff_toNat_le, UInt8.lt_iff_toNat_lt]; simp; omega
  have h8 : isCont e = true := by
    simp only [isCont, UInt8.le_iff_toNat_le, UInt8.lt_iff_toNat_lt]; simp; omega
  simp only [sequenceLength, h1, h2, h3, h4, h5, h6, h7, h8, if_false, if_true, and_self]

/-- The encoding of a character is a well-formed sequence of its own length, whatever follows. -/
theorem sequenceLength_encode (c : Char) (rest : List UInt8) :
    sequenceLength (String.utf8EncodeChar c ++ rest) = (String.utf8EncodeChar c).length := by
  have hvalid := c.valid
  simp only [UInt32.isValidChar, Nat.isValidChar] at hvalid
  have hval : c.val.toNat = c.toNat := rfl
  rw [hval] at hvalid
  simp only [String.utf8EncodeChar, hval]
  split_ifs with h1 h2 h3
  · exact sequenceLength_one rest (by simp; omega)
  · exact sequenceLength_two rest (by simp; omega) (by simp; omega)
  · exact sequenceLength_three rest (by simp; omega) (by simp; omega) (by simp; omega)
      (by simp; omega) (by simp; omega)
  · exact sequenceLength_four rest (by simp; omega) (by simp; omega) (by simp; omega)
      (by simp; omega) (by simp; omega) (by simp; omega)

/-! ## Bytes and texts -/

theorem toList_loop (b : ByteArray) (i : Nat) (r : List UInt8) :
    ByteArray.toList.loop b i r = r.reverse ++ b.data.toList.drop i := by
  fun_induction ByteArray.toList.loop b i r with
  | case1 i r h ih =>
    have hi : i < b.data.toList.length := by simpa using h
    rw [ih, List.drop_eq_getElem_cons hi]
    simp [ByteArray.get!, h]
  | case2 i r h =>
    rw [List.drop_eq_nil_of_le (by simpa using Nat.le_of_not_lt h)]
    simp

theorem toList_toByteArray (l : List UInt8) : l.toByteArray.toList = l := by
  rw [ByteArray.toList, toList_loop, List.toList_data_toByteArray]
  simp

theorem toByteArray_eq_mk (l : List UInt8) : l.toByteArray = ByteArray.mk l.toArray :=
  ByteArray.ext (Array.toList_inj.1 (by simp))

/-- The UTF-8 bytes of a text are the encodings of its characters, one after another. -/
theorem ofString_eq_flatMap (s : String) :
    ofString s = s.toList.flatMap String.utf8EncodeChar := by
  rw [ofString, String.toUTF8_eq_toByteArray, ← String.utf8Encode_toList, List.utf8Encode,
    toList_toByteArray]

theorem fromUTF8?_toByteArray (s : String) : String.fromUTF8? s.toByteArray = some s := by
  simp [String.fromUTF8?, s.isValidUTF8, String.fromUTF8]

theorem fromUTF8?_encode (c : Char) :
    String.fromUTF8? (ByteArray.mk (String.utf8EncodeChar c).toArray) =
      some (String.singleton c) := by
  rw [← toByteArray_eq_mk, ← List.utf8Encode_singleton, ← String.toByteArray_singleton,
    fromUTF8?_toByteArray]

/-- Bytes that read as a text are that text's encoding. -/
theorem encode_of_fromUTF8? {l : List UInt8} {s : String}
    (h : String.fromUTF8? (ByteArray.mk l.toArray) = some s) :
    s.toList.flatMap String.utf8EncodeChar = l := by
  unfold String.fromUTF8? at h
  split at h
  · cases h
    rw [← List.toByteArray_inj, ← List.utf8Encode, String.utf8Encode_toList, toByteArray_eq_mk]
    rfl
  · cases h

theorem utf8EncodeChar_ne_nil (c : Char) : String.utf8EncodeChar c ≠ [] := by
  intro h
  have := Char.utf8Size_pos c
  rw [← String.length_utf8EncodeChar, h] at this
  simp at this

theorem length_le_length_flatMap_encode (cs : List Char) :
    cs.length ≤ (cs.flatMap String.utf8EncodeChar).length := by
  induction cs with
  | nil => simp
  | cons c cs ih =>
    have := Char.utf8Size_pos c
    simp only [List.flatMap_cons, List.length_append, String.length_utf8EncodeChar,
      List.length_cons]
    omega

/-! ## The two round trips -/

/-- Read back with enough steps, the encoding of characters gives those characters. -/
theorem chars_flatMap_encode (cs : List Char) :
    ∀ fuel, cs.length ≤ fuel → chars fuel (cs.flatMap String.utf8EncodeChar) = cs := by
  induction cs with
  | nil => intro fuel _; cases fuel <;> simp [chars]
  | cons c cs ih =>
    intro fuel h
    obtain ⟨f, rfl⟩ : ∃ f, fuel = f + 1 := ⟨fuel - 1, by simp at h; omega⟩
    obtain ⟨b, bs, hbs⟩ := List.exists_cons_of_ne_nil (utf8EncodeChar_ne_nil c)
    have hn : sequenceLength (b :: (bs ++ cs.flatMap String.utf8EncodeChar)) = bs.length + 1 := by
      have := sequenceLength_encode c (cs.flatMap String.utf8EncodeChar)
      rwa [hbs] at this
    rw [List.flatMap_cons, hbs, List.cons_append, chars]
    simp only [hn, Nat.add_one_ne_zero, if_false]
    have htake : (b :: (bs ++ cs.flatMap String.utf8EncodeChar)).take (bs.length + 1) = b :: bs := by
      simp
    have hdrop : (b :: (bs ++ cs.flatMap String.utf8EncodeChar)).drop (bs.length + 1) =
        cs.flatMap String.utf8EncodeChar := by
      simp
    rw [htake, hdrop, ← hbs, fromUTF8?_encode, Option.getD_some, String.toList_singleton,
      ih f (by simp at h; omega)]
    rfl

/-- Bytes whose reading has no U+FFFD are the encoding of that reading. -/
theorem flatMap_encode_chars (fuel : Nat) :
    ∀ bs : List UInt8, bs.length ≤ fuel → '�' ∉ chars fuel bs →
      (chars fuel bs).flatMap String.utf8EncodeChar = bs := by
  induction fuel with
  | zero =>
    intro bs h _
    rw [List.length_eq_zero_iff.1 (Nat.le_zero.1 h)]
    rfl
  | succ f ih =>
    intro bs h hr
    rcases bs with _ | ⟨b, rest⟩
    · rfl
    · rw [chars] at hr ⊢
      by_cases hn : sequenceLength (b :: rest) = 0
      · simp [hn] at hr
      · simp only [hn, if_false] at hr ⊢
        rcases hs : String.fromUTF8?
            (ByteArray.mk ((b :: rest).take (sequenceLength (b :: rest))).toArray) with _ | s
        · simp [hs] at hr
        · simp only [hs, Option.getD_some, List.mem_append, not_or] at hr ⊢
          rw [List.flatMap_append, encode_of_fromUTF8? hs,
            ih _ (by simp at h ⊢; omega) hr.2, List.take_append_drop]

end Bytes

namespace Clean

/-! ## Cleaning -/

/-- U+FFFD, which a byte that starts no sequence reads as, is a symbol: it is never kept. -/
theorem keeps_replacement : keeps '�' = false := by decide +kernel

/-- Cleaning gives the encoding of the kept characters, also when it returns its input as it is. -/
theorem sanitizeBytes_eq (bs : List UInt8) :
    sanitizeBytes bs =
      ((Bytes.chars bs.length bs).filter keeps).flatMap String.utf8EncodeChar := by
  simp only [sanitizeBytes]
  split_ifs with hall
  · have hkept : ∀ c ∈ Bytes.chars bs.length bs, keeps c = true := by simpa using hall
    rw [List.filter_eq_self.2 hkept]
    refine (Bytes.flatMap_encode_chars _ _ le_rfl fun h => ?_).symm
    simpa [keeps_replacement] using hkept _ h
  · rw [Bytes.ofString_eq_flatMap, String.toList_ofList]

/-- Read back, the cleaned bytes are the kept characters of the input's reading. -/
theorem chars_sanitizeBytes (bs : List UInt8) :
    Bytes.chars (sanitizeBytes bs).length (sanitizeBytes bs) =
      (Bytes.chars bs.length bs).filter keeps := by
  rw [sanitizeBytes_eq]
  exact Bytes.chars_flatMap_encode _ _ (Bytes.length_le_length_flatMap_encode _)

/-- On the bytes of a text, cleaning bytes is cleaning the text. -/
theorem sanitizeBytes_ofString (s : String) :
    sanitizeBytes (Bytes.ofString s) = Bytes.ofString (sanitize s) := by
  rw [sanitizeBytes_eq, Bytes.ofString_eq_flatMap,
    Bytes.chars_flatMap_encode _ _ (Bytes.length_le_length_flatMap_encode _), sanitize,
    Bytes.ofString_eq_flatMap, String.toList_ofList]

/-- Cleaning a string of bytes, UTF-8 or not, writes in UTF-8 exactly the characters of its
lenient reading that are ASCII, letters or digits, dropping every U+FFFD and so every byte that
starts no well-formed sequence; cleaning the result again gives it back; and the result is empty
exactly when the reading has no character to keep. -/
theorem sanitizeBytes_filters_lenient_reading (bs : List UInt8) :
    sanitizeBytes bs = ((Bytes.chars bs.length bs).filter keeps).flatMap String.utf8EncodeChar ∧
      (sanitizeBytes bs).toByteArray.IsValidUTF8 ∧
      '�' ∉ Bytes.chars (sanitizeBytes bs).length (sanitizeBytes bs) ∧
      sanitizeBytes (sanitizeBytes bs) = sanitizeBytes bs ∧
      (sanitizeBytes bs = [] ↔ ∀ c ∈ Bytes.chars bs.length bs, keeps c = false) := by
  have heq := sanitizeBytes_eq bs
  refine ⟨heq, .intro _ (by rw [heq]; rfl), ?_, ?_, ?_⟩
  · rw [chars_sanitizeBytes, List.mem_filter, keeps_replacement]
    simp
  · rw [sanitizeBytes_eq (sanitizeBytes bs), chars_sanitizeBytes, List.filter_filter]
    simp only [Bool.and_self, heq]
  · rw [heq, List.flatMap_eq_nil_iff]
    simp only [List.mem_filter, Bytes.utf8EncodeChar_ne_nil, imp_false, not_and,
      Bool.not_eq_true]

end Clean

end SwapArchive
