import Cadastre.Text.Utf8
import Mathlib.Tactic.IntervalCases

/-!
Text that is encoded is decoded to itself. A character's first byte tells how many more belong to
it, and decoding takes just these, whatever follows them.
-/

namespace Cadastre.Text

theorem utf8_eq_flatMap (s : String) : utf8 s = s.toList.flatMap String.utf8EncodeChar := by
  rw [utf8, String.toUTF8_eq_toByteArray, ← String.utf8Encode_toList, List.utf8Encode]
  simp

theorem continuation?_six {bits : Nat} {first last : UInt8} (small : bits < 64)
    (lower : first.toNat ≤ bits + 0x80) (upper : bits + 0x80 ≤ last.toNat) (rest : Bytes) :
    continuation? first last (UInt8.ofNat (bits + 0x80) :: rest) = some (bits, rest) := by
  have value : (UInt8.ofNat (bits + 0x80)).toNat = bits + 0x80 := by
    rw [UInt8.toNat_ofNat']
    omega
  simp only [continuation?, UInt8.le_iff_toNat_le, value, lower, upper, and_self, ↓reduceIte,
    Option.some.injEq, Prod.mk.injEq, and_true]
  omega

theorem finish_succ {bits : Nat} (small : bits < 64) (count value : Nat) (rest : Bytes) :
    finish (count + 1) value (UInt8.ofNat (bits + 0x80) :: rest)
      = finish count (value * 64 + bits) rest := by
  rw [finish, continuation?_six small (by change 128 ≤ _; omega) (by change _ ≤ 191; omega)]

theorem character_of_lead {byte : UInt8} {lead : Lead} (high : ¬ byte < 0x80)
    (led : lead? byte = some lead) {bits : Nat} (small : bits < 64)
    (lower : lead.first.toNat ≤ bits + 0x80) (upper : bits + 0x80 ≤ lead.last.toNat)
    (rest : Bytes) :
    character byte (UInt8.ofNat (bits + 0x80) :: rest)
      = finish lead.more (lead.bits * 64 + bits) rest := by
  simp only [character, high, ↓reduceIte, led, continuation?_six small lower upper]

theorem character_two {v : Nat} (lower : 0x7f < v) (upper : v ≤ 0x7ff) (rest : Bytes) :
    character (UInt8.ofNat (v / 64 % 0x20 + 0xc0)) (UInt8.ofNat (v % 0x40 + 0x80) :: rest)
      = (some (Char.ofNat v), rest) := by
  have value : v / 64 % 0x20 * 64 + v % 0x40 = v := by omega
  have least : 2 ≤ v / 64 % 0x20 := by omega
  have most : v / 64 % 0x20 < 32 := by omega
  have small : v % 0x40 < 64 := by omega
  revert value
  generalize v / 64 % 0x20 = a at *
  generalize v % 0x40 = b at *
  intro value
  have led : lead? (UInt8.ofNat (a + 0xc0)) = some ⟨a, 0x80, 0xbf, 0⟩ := by
    interval_cases a <;> rfl
  rw [character_of_lead (by interval_cases a <;> decide) led small
    (by change 128 ≤ _; omega) (by change _ ≤ 191; omega)]
  simp only [finish, value]

theorem character_three {v : Nat} (lower : 0x7ff < v) (upper : v ≤ 0xffff)
    (whole : v < 0xd800 ∨ 0xdfff < v) (rest : Bytes) :
    character (UInt8.ofNat (v / 4096 % 0x10 + 0xe0))
        (UInt8.ofNat (v / 64 % 0x40 + 0x80) :: UInt8.ofNat (v % 0x40 + 0x80) :: rest)
      = (some (Char.ofNat v), rest) := by
  have value : (v / 4096 % 0x10 * 64 + v / 64 % 0x40) * 64 + v % 0x40 = v := by omega
  have most : v / 4096 % 0x10 < 16 := by omega
  have second : v / 64 % 0x40 < 64 := by omega
  have third : v % 0x40 < 64 := by omega
  -- Neither an overlong form nor a surrogate.
  have long : v / 4096 % 0x10 = 0 → 32 ≤ v / 64 % 0x40 := by omega
  have single : v / 4096 % 0x10 = 13 → v / 64 % 0x40 < 32 := by omega
  revert value
  generalize v / 4096 % 0x10 = a at *
  generalize v / 64 % 0x40 = b at *
  generalize v % 0x40 = c at *
  intro value
  have led : ∃ first last, lead? (UInt8.ofNat (a + 0xe0)) = some ⟨a, first, last, 1⟩ ∧
      first.toNat ≤ b + 0x80 ∧ b + 0x80 ≤ last.toNat := by
    by_cases zero : a = 0
    · subst zero
      exact ⟨0xa0, 0xbf, rfl, by change 160 ≤ _; omega, by change _ ≤ 191; omega⟩
    · by_cases thirteen : a = 13
      · subst thirteen
        exact ⟨0x80, 0x9f, rfl, by change 128 ≤ _; omega, by change _ ≤ 159; omega⟩
      · refine ⟨0x80, 0xbf, ?_, by change 128 ≤ _; omega, by change _ ≤ 191; omega⟩
        interval_cases a <;> first | contradiction | rfl
  obtain ⟨first, last, led, least, greatest⟩ := led
  rw [character_of_lead (by interval_cases a <;> decide) led second least greatest,
    finish_succ third]
  simp only [finish, value]

theorem character_four {v : Nat} (lower : 0xffff < v) (upper : v < 0x110000) (rest : Bytes) :
    character (UInt8.ofNat (v / 262144 % 0x08 + 0xf0))
        (UInt8.ofNat (v / 4096 % 0x40 + 0x80) :: UInt8.ofNat (v / 64 % 0x40 + 0x80)
          :: UInt8.ofNat (v % 0x40 + 0x80) :: rest)
      = (some (Char.ofNat v), rest) := by
  have value : ((v / 262144 % 0x08 * 64 + v / 4096 % 0x40) * 64 + v / 64 % 0x40) * 64
      + v % 0x40 = v := by omega
  have most : v / 262144 % 0x08 < 5 := by omega
  have second : v / 4096 % 0x40 < 64 := by omega
  have third : v / 64 % 0x40 < 64 := by omega
  have fourth : v % 0x40 < 64 := by omega
  -- Neither an overlong form nor a number above the last character's.
  have long : v / 262144 % 0x08 = 0 → 16 ≤ v / 4096 % 0x40 := by omega
  have bounded : v / 262144 % 0x08 = 4 → v / 4096 % 0x40 < 16 := by omega
  revert value
  generalize v / 262144 % 0x08 = a at *
  generalize v / 4096 % 0x40 = b at *
  generalize v / 64 % 0x40 = c at *
  generalize v % 0x40 = d at *
  intro value
  have led : ∃ first last, lead? (UInt8.ofNat (a + 0xf0)) = some ⟨a, first, last, 2⟩ ∧
      first.toNat ≤ b + 0x80 ∧ b + 0x80 ≤ last.toNat := by
    by_cases zero : a = 0
    · subst zero
      exact ⟨0x90, 0xbf, rfl, by change 144 ≤ _; omega, by change _ ≤ 191; omega⟩
    · by_cases four : a = 4
      · subst four
        exact ⟨0x80, 0x8f, rfl, by change 128 ≤ _; omega, by change _ ≤ 143; omega⟩
      · refine ⟨0x80, 0xbf, ?_, by change 128 ≤ _; omega, by change _ ≤ 191; omega⟩
        interval_cases a <;> first | contradiction | rfl
  obtain ⟨first, last, led, least, greatest⟩ := led
  rw [character_of_lead (by interval_cases a <;> decide) led second least greatest,
    finish_succ third, finish_succ fourth]
  simp only [finish, value]

theorem character_utf8EncodeChar (c : Char) (rest : Bytes) :
    ∃ byte more, String.utf8EncodeChar c = byte :: more ∧
      character byte (more ++ rest) = (some c, rest) := by
  have valid : c.val.toNat < 0xd800 ∨ (0xdfff < c.val.toNat ∧ c.val.toNat < 0x110000) := c.valid
  have same : Char.ofNat c.val.toNat = c := Char.ofNat_toNat c
  change ∃ byte more, (if c.val.toNat ≤ 0x7f then _ else _) = byte :: more ∧ _
  rw [← same]
  simp only [same]
  generalize c.val.toNat = v at *
  by_cases one : v ≤ 0x7f
  · have value : (UInt8.ofNat v).toNat = v := by
      rw [UInt8.toNat_ofNat']
      omega
    have low : UInt8.ofNat v < 0x80 := by
      rw [UInt8.lt_iff_toNat_lt, value]
      change _ < 128
      omega
    refine ⟨_, _, if_pos one, ?_⟩
    simp only [character, low, ↓reduceIte, value, same, List.nil_append]
  · rw [if_neg one, ← same]
    by_cases two : v ≤ 0x7ff
    · exact ⟨_, _, if_pos two, character_two (by omega) two rest⟩
    · rw [if_neg two]
      by_cases three : v ≤ 0xffff
      · exact ⟨_, _, if_pos three, character_three (by omega) three (by omega) rest⟩
      · exact ⟨_, _, if_neg three, character_four (by omega) (by omega) rest⟩

theorem decodeOnto_flatMap (cs : List Char) (done : List (Option Char)) :
    decodeOnto done (cs.flatMap String.utf8EncodeChar) = done.reverse ++ cs.map some := by
  induction cs generalizing done with
  | nil => simp [decodeOnto]
  | cons c rest ih =>
      obtain ⟨byte, more, bytes, read⟩ :=
        character_utf8EncodeChar c (rest.flatMap String.utf8EncodeChar)
      rw [List.flatMap_cons, bytes, List.cons_append, decodeOnto, read, ih]
      simp

theorem decode_utf8 (s : String) : decode (utf8 s) = s.toList.map some := by
  rw [decode, utf8_eq_flatMap, decodeOnto_flatMap]
  simp

end Cadastre.Text
