import Cadastre.Text.Numeral

/-!
Decimal numerals. The numeral that a number is written as is read as that number, and digits
without a needless zero in front are the numeral of the number they say.
-/

namespace Cadastre.Text

theorem toList_toString_nat (n : Nat) : (toString n).toList = Nat.toDigits 10 n :=
  Nat.toList_repr

theorem toList_toString_uint32 (n : UInt32) : (toString n).toList = Nat.toDigits 10 n.toNat :=
  toList_toString_nat n.toNat

theorem toString_uint32_injective : Function.Injective (toString : UInt32 → String) := by
  intro first second same
  have digits := congrArg String.toList same
  rw [toList_toString_uint32, toList_toString_uint32] at digits
  have value := congrArg (Nat.ofDigitChars 10 · 0) digits
  simp only [Nat.ofDigitChars_ten_toDigits] at value
  exact UInt32.toNat_inj.mp value

theorem all_isDigit_toDigits (n : Nat) : (Nat.toDigits 10 n).all Char.isDigit = true := by
  rw [List.all_eq_true]
  intro c member
  exact Nat.isDigit_of_mem_toDigits (by decide) (by decide) member

theorem digitChar_of_isDigit {c : Char} (digit : c.isDigit = true) :
    c.toNat - '0'.toNat < 10 ∧ Nat.digitChar (c.toNat - '0'.toNat) = c := by
  rw [Char.isDigit_iff_toNat] at digit
  have lower : 48 ≤ c.toNat := digit.1
  have upper : c.toNat ≤ 57 := digit.2
  have small : c.toNat - '0'.toNat < 10 := by
    change c.toNat - 48 < 10
    omega
  refine ⟨small, ?_⟩
  apply Char.toNat_inj.mp
  rw [Nat.toNat_digitChar_of_lt_ten small]
  change 48 + (c.toNat - 48) = c.toNat
  omega

theorem toDigits_append_digits (cs : List Char) (digits : cs.all Char.isDigit = true)
    (start : Nat) (positive : 0 < start) :
    Nat.toDigits 10 start ++ cs = Nat.toDigits 10 (Nat.ofDigitChars 10 cs start) := by
  induction cs generalizing start with
  | nil => simp
  | cons c rest ih =>
      simp only [List.all_cons, Bool.and_eq_true] at digits
      obtain ⟨small, same⟩ := digitChar_of_isDigit digits.1
      have next := Nat.toDigits_append_toDigits (b := 10) (by decide) positive small
      rw [Nat.toDigits_of_lt_base small, same] at next
      rw [Nat.ofDigitChars_cons, ← ih digits.2 _ (by omega), ← next, List.append_assoc,
        List.singleton_append]

theorem toDigits_ofDigitChars {cs : List Char} (filled : cs ≠ [])
    (digits : cs.all Char.isDigit = true) (lead : cs.head? ≠ some '0') :
    Nat.toDigits 10 (Nat.ofDigitChars 10 cs 0) = cs := by
  cases cs with
  | nil => exact absurd rfl filled
  | cons c rest =>
      simp only [List.all_cons, Bool.and_eq_true] at digits
      obtain ⟨small, same⟩ := digitChar_of_isDigit digits.1
      have positive : 0 < c.toNat - '0'.toNat := by
        apply Nat.pos_of_ne_zero
        intro zero
        rw [zero] at same
        exact lead (by rw [← same]; rfl)
      rw [Nat.ofDigitChars_cons, Nat.mul_zero, Nat.zero_add,
        ← toDigits_append_digits rest digits.2 _ positive, Nat.toDigits_of_lt_base small, same]
      rfl

theorem head?_toDigits_ne_zero {n : Nat} (positive : 0 < n) :
    (Nat.toDigits 10 n).head? ≠ some '0' := by
  induction n using Nat.strongRecOn with
  | ind n ih =>
      by_cases small : n < 10
      · rw [Nat.toDigits_of_lt_base small]
        intro zero
        have value := congrArg Char.toNat (Option.some.inj zero)
        rw [Nat.toNat_digitChar_of_lt_ten small] at value
        change 48 + n = 48 at value
        omega
      · rw [Nat.toDigits_of_base_le (by decide) (by omega),
          List.head?_append, Option.or_of_isSome (by simp)]
        exact ih (n / 10) (by omega) (by omega)

def unsigned (cs : List Char) : List Char :=
  if cs.head? = some '+' then cs.tail else cs

theorem eq_append_unsigned (cs : List Char) :
    ∃ sign, (sign = [] ∨ sign = ['+']) ∧ cs = sign ++ unsigned cs := by
  by_cases signed : cs.head? = some '+'
  · obtain ⟨rest, rfl⟩ := List.head?_eq_some_iff.mp signed
    exact ⟨['+'], Or.inr rfl, rfl⟩
  · exact ⟨[], Or.inl rfl, by rw [unsigned, if_neg signed, List.nil_append]⟩

theorem unsigned_of_digits {digits : List Char} (all : digits.all Char.isDigit = true) :
    unsigned digits = digits := by
  cases digits with
  | nil => rfl
  | cons c rest =>
      simp only [List.all_cons, Bool.and_eq_true] at all
      have unlike : c ≠ '+' := by
        rintro rfl
        exact absurd all.1 (by decide)
      simp [unsigned, unlike]

theorem readBelow_eq_some_iff (limit : Nat) (cs : List Char) (n : Nat) :
    readBelow limit cs = some n ↔
      unsigned cs ≠ [] ∧ (unsigned cs).all Char.isDigit = true ∧
        Nat.ofDigitChars 10 (unsigned cs) 0 = n ∧ n < limit := by
  change (if !(unsigned cs).isEmpty && (unsigned cs).all Char.isDigit then
    (if Nat.ofDigitChars 10 (unsigned cs) 0 < limit then
      some (Nat.ofDigitChars 10 (unsigned cs) 0) else none) else none) = some n ↔ _
  generalize unsigned cs = digits
  by_cases filled : digits = []
  · simp [filled]
  · have some' : digits.isEmpty = false := by simpa using filled
    by_cases all : digits.all Char.isDigit = true
    · by_cases below : Nat.ofDigitChars 10 digits 0 < limit
      · simp only [some', all, below, filled, Bool.not_false, Bool.and_self, ↓reduceIte,
          Option.some.injEq, ne_eq, not_false_eq_true, true_and]
        exact ⟨fun value => ⟨value, value ▸ below⟩, fun found => found.1⟩
      · simp only [some', all, below, Bool.not_false, Bool.and_self, ↓reduceIte, reduceCtorEq,
          false_iff]
        rintro ⟨_, _, value, small⟩
        exact below (value ▸ small)
    · simp [all]

theorem readBelow_toDigits_iff (limit n value : Nat) :
    readBelow limit (Nat.toDigits 10 n) = some value ↔ n = value ∧ value < limit := by
  rw [readBelow_eq_some_iff, unsigned_of_digits (all_isDigit_toDigits n),
    Nat.ofDigitChars_ten_toDigits]
  constructor
  · rintro ⟨-, -, same, below⟩
    exact ⟨same, below⟩
  · rintro ⟨same, below⟩
    exact ⟨Nat.toDigits_ne_nil, all_isDigit_toDigits n, same, below⟩

theorem readUInt64?_toString_nat_iff (n : Nat) (index : UInt64) :
    readUInt64? (toString n) = some index ↔ n = index.toNat := by
  simp only [readUInt64?, toList_toString_nat, Option.map_eq_some_iff, readBelow_toDigits_iff]
  constructor
  · rintro ⟨value, ⟨rfl, below⟩, rfl⟩
    rw [UInt64.toNat_ofNat_of_lt' below]
  · rintro rfl
    exact ⟨index.toNat, ⟨rfl, index.toNat_lt⟩, UInt64.ofNat_toNat⟩

theorem readUInt64?_toString (n : UInt64) : readUInt64? (toString n) = some n :=
  (readUInt64?_toString_nat_iff n.toNat n).mpr rfl

structure Decimal (text : String) : Prop where
  filled : text.toList ≠ []
  digits : text.toList.all Char.isDigit = true

instance (text : String) : Decidable (Decimal text) :=
  decidable_of_iff (text.toList ≠ [] ∧ text.toList.all Char.isDigit = true)
    ⟨fun both => ⟨both.1, both.2⟩, fun decimal => ⟨decimal.filled, decimal.digits⟩⟩

def decimalValue (text : String) : Nat :=
  Nat.ofDigitChars 10 text.toList 0

theorem decimal_toString (n : Nat) : Decimal (toString n) where
  filled := by rw [toList_toString_nat]; exact Nat.toDigits_ne_nil
  digits := by rw [toList_toString_nat]; exact all_isDigit_toDigits n

theorem decimalValue_toString (n : Nat) : decimalValue (toString n) = n := by
  rw [decimalValue, toList_toString_nat, Nat.ofDigitChars_ten_toDigits]

end Cadastre.Text
