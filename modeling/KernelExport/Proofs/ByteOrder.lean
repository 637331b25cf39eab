/-
This file says that texts are ordered by their bytes in UTF-8 as they are by their characters.

The code of a greater character is decided to be greater within that character, whatever follows
(`encode_append_lt`): its first byte says how many there are, and a code of more bytes starts with
a greater one; codes of one length are numbers written with 64 as the base.
-/

import Mathlib.Data.String.Basic

namespace KernelExport.Text

/-- The bytes of a text in UTF-8. -/
def bytes (text : String) : List UInt8 :=
  text.toUTF8.data.toList

theorem bytes_eq_flatMap (text : String) :
    bytes text = text.toList.flatMap String.utf8EncodeChar := by
  have encoded : (String.ofList text.toList).toByteArray = text.toList.utf8Encode :=
    String.toByteArray_ofList
  rw [String.ofList_toList] at encoded
  rw [bytes, String.toUTF8, encoded, List.utf8Encode, List.data_toByteArray]

/-- Of two numbers, the digit by which one is less, or the digits in front of it. -/
theorem div_lt_or_mod_lt {first second unit : Nat} (less : first / unit < second / unit) :
    first / (unit * 64) < second / (unit * 64) ∨ first / (unit * 64) = second / (unit * 64) ∧
      first / unit % 64 < second / unit % 64 := by
  rw [← Nat.div_div_eq_div_mul, ← Nat.div_div_eq_div_mul]
  omega

/-- The code of a character is less than that of a greater one, whatever follows them. -/
theorem encode_append_lt {first second : Char} (less : first < second)
    (behind later : List UInt8) :
    String.utf8EncodeChar first ++ behind < String.utf8EncodeChar second ++ later := by
  have small : first.val.toNat < second.val.toNat := less
  have bound : second.val.toNat < 0x110000 := second.valid.elim (by omega) (by omega)
  simp only [String.utf8EncodeChar]
  generalize first.val.toNat = low at *
  generalize second.val.toNat = high at *
  have last : low / 64 < high / 64 ∨ low / 64 = high / 64 ∧ low % 64 < high % 64 := by omega
  have third := @div_lt_or_mod_lt low high 64
  have second := @div_lt_or_mod_lt low high 4096
  split_ifs
  -- A code of fewer bytes cannot be that of the greater character.
  all_goals first | omega | skip
  all_goals
    simp only [List.cons_append, List.nil_append, List.cons_lt_cons_iff, UInt8.lt_iff_toNat_lt,
      ← UInt8.toNat_inj, UInt8.toNat_ofNat']
    -- Each byte is the number that it is written as.
    simp (disch := omega) only [Nat.mod_eq_of_lt (b := 256), Nat.mod_eq_of_lt (b := 8)]
    omega

theorem flatMap_encode_lt {first second : List Char} (less : first < second) :
    first.flatMap String.utf8EncodeChar < second.flatMap String.utf8EncodeChar := by
  induction less with
  | nil =>
    rename_i character rest
    obtain ⟨byte, further, coded⟩ := List.exists_cons_of_ne_nil
      (String.utf8EncodeChar_ne_nil : String.utf8EncodeChar character ≠ [])
    rw [List.flatMap_cons, coded]
    exact List.nil_lt_cons byte _
  | rel less => exact encode_append_lt less _ _
  | cons _ inductionHypothesis => exact List.append_left_lt inductionHypothesis

/-- Texts are ordered by their bytes as they are by their characters. -/
theorem bytes_lt_iff {first second : String} : bytes first < bytes second ↔ first < second := by
  have mono : ∀ {first second : String}, first < second → bytes first < bytes second := by
    intro first second less
    rw [bytes_eq_flatMap, bytes_eq_flatMap]
    exact flatMap_encode_lt (String.lt_iff_toList_lt.1 less)
  refine ⟨fun less => ?_, mono⟩
  rcases lt_trichotomy first second with before | rfl | behind
  · exact before
  · exact absurd less (List.lt_irrefl _)
  · exact absurd less (List.lt_asymm (mono behind))

theorem bytes_le_iff {first second : String} : bytes first ≤ bytes second ↔ first ≤ second := by
  rw [← List.not_lt, bytes_lt_iff, not_lt]

end KernelExport.Text
