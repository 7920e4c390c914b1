import Cadastre.Item.Index
import Cadastre.Proofs.Text.Trim
import Cadastre.Proofs.Text.Words

/-!
Index texts, and names that have one. Digits become the numeral of the number they say. A name gives
its index twice over: as a text that is compared and as a number that is read. The two agree just
for those names that write the index in digits alone.
-/

namespace Cadastre.Item

def indexSpelling? (name : String) : Option (List Char) :=
  ((Text.pieces (· = '#') name.toList)[1]?).map Text.trimChars

/-- The name writes its index in digits, with no sign in front. -/
def WritesDigits (name : String) : Prop :=
  ∃ digits, indexSpelling? name = some digits ∧ digits ≠ [] ∧ digits.all Char.isDigit = true

theorem indexInName?_eq (name : String) :
    indexInName? name = (indexSpelling? name).map fun cs => normalizeIndex (.ofList cs) := by
  simp [indexInName?, indexSpelling?, Function.comp_def]

theorem ofDigitChars_dropWhile_zero (cs : List Char) :
    Nat.ofDigitChars 10 (cs.dropWhile (· = '0')) 0 = Nat.ofDigitChars 10 cs 0 := by
  induction cs with
  | nil => rfl
  | cons c rest ih =>
      by_cases zero : c = '0'
      · subst zero
        rw [List.dropWhile_cons_of_pos (by simp), ih, Nat.ofDigitChars_cons]
        rfl
      · rw [List.dropWhile_cons_of_neg (by simpa using zero)]

theorem head?_dropWhile_zero (cs : List Char) :
    (cs.dropWhile (· = '0')).head? ≠ some '0' := by
  induction cs with
  | nil => simp
  | cons c rest ih =>
      by_cases zero : c = '0'
      · rw [List.dropWhile_cons_of_pos (by simpa using zero)]
        exact ih
      · rw [List.dropWhile_cons_of_neg (by simpa using zero)]
        simpa using zero

theorem all_isDigit_dropWhile_zero (cs : List Char) :
    (cs.dropWhile (· = '0')).all Char.isDigit = cs.all Char.isDigit := by
  induction cs with
  | nil => rfl
  | cons c rest ih =>
      by_cases zero : c = '0'
      · subst zero
        rw [List.dropWhile_cons_of_pos (by simp), ih]
        simp [Char.isDigit]
      · rw [List.dropWhile_cons_of_neg (by simpa using zero)]

section

open Text (Decimal decimalValue)

variable {text name : String} {index : UInt64}

theorem toList_normalizeIndex (text : String) : (normalizeIndex text).toList =
    if text.toList.dropWhile (· = '0') = [] ∧ text.toList ≠ [] then ['0']
    else text.toList.dropWhile (· = '0') := by
  unfold normalizeIndex
  by_cases empty : text = ""
  · simp [empty]
  · by_cases zeros : text.toList.dropWhile (· = '0') = []
    · simp [empty, zeros]
    · simp [zeros]

theorem all_isDigit_normalizeIndex (text : String) :
    (normalizeIndex text).toList.all Char.isDigit = text.toList.all Char.isDigit := by
  rw [toList_normalizeIndex, ← all_isDigit_dropWhile_zero text.toList]
  split
  · rename_i zeros
    rw [zeros.1]
    rfl
  · rfl

theorem normalizeIndex_of_zero (text : String)
    (lead : (normalizeIndex text).toList.head? = some '0') : normalizeIndex text = "0" := by
  have chars := toList_normalizeIndex text
  split at chars
  · exact String.toList_inj.mp chars
  · rw [chars] at lead
    exact absurd lead (head?_dropWhile_zero _)

theorem normalizeIndex_eq_toString (decimal : Decimal text) :
    normalizeIndex text = toString (decimalValue text) := by
  apply String.toList_inj.mp
  rw [toList_normalizeIndex, Text.toList_toString_nat, decimalValue,
    ← ofDigitChars_dropWhile_zero text.toList]
  by_cases zeros : text.toList.dropWhile (· = '0') = []
  · rw [if_pos ⟨zeros, decimal.filled⟩, zeros]
    rfl
  · rw [if_neg (fun both => zeros both.1)]
    have digits := decimal.digits
    rw [← all_isDigit_dropWhile_zero] at digits
    exact (Text.toDigits_ofDigitChars zeros digits (head?_dropWhile_zero _)).symm

theorem normalizeIndex_toString (n : Nat) : normalizeIndex (toString n) = toString n := by
  rw [normalizeIndex_eq_toString (Text.decimal_toString n), Text.decimalValue_toString]

theorem normalizeIndex_eq_iff {other : String} (decimal : Decimal text)
    (decimal' : Decimal other) :
    normalizeIndex text = normalizeIndex other ↔ decimalValue text = decimalValue other := by
  rw [normalizeIndex_eq_toString decimal, normalizeIndex_eq_toString decimal']
  constructor
  · intro same
    have value := congrArg decimalValue same
    rwa [Text.decimalValue_toString, Text.decimalValue_toString] at value
  · exact congrArg toString

theorem readUInt64?_normalizeIndex_iff (decimal : Decimal text) (index : UInt64) :
    Text.readUInt64? (normalizeIndex text) = some index ↔ decimalValue text = index.toNat := by
  rw [normalizeIndex_eq_toString decimal, Text.readUInt64?_toString_nat_iff]

theorem exists_readUInt64?_normalizeIndex_iff (decimal : Decimal text) :
    (∃ index, Text.readUInt64? (normalizeIndex text) = some index) ↔
      decimalValue text < UInt64.size := by
  simp only [readUInt64?_normalizeIndex_iff decimal]
  constructor
  · rintro ⟨index, value⟩
    rw [value]
    exact index.toNat_lt
  · intro below
    exact ⟨UInt64.ofNat (decimalValue text), (UInt64.toNat_ofNat_of_lt' below).symm⟩

/-- The text stands behind the first `#` of the name, with blanks around it, and then comes the
second `#` or nothing. -/
def Marks (name text : String) : Prop :=
  ∃ front before after rest,
    name.toList = front ++ '#' :: (before ++ text.toList ++ after ++ rest) ∧ '#' ∉ front ∧
      before.all Text.isBlank = true ∧ after.all Text.isBlank = true ∧ ∀ c ∈ rest.head?, c = '#'

theorem indexSpelling?_eq_some_iff (decimal : Decimal text) :
    indexSpelling? name = some text.toList ↔ Marks name text := by
  rw [indexSpelling?, Option.map_eq_some_iff]
  simp only [Text.pieces_second_eq_some_iff,
    Text.trimChars_eq_digits_iff decimal.filled decimal.digits]
  constructor
  · rintro ⟨_, ⟨front, rest, whole, plain, -, ends⟩, before, after, rfl, blank, blank'⟩
    exact ⟨front, before, after, rest, whole, plain, blank, blank', ends⟩
  · rintro ⟨front, before, after, rest, whole, plain, blank, blank', ends⟩
    refine ⟨_, ⟨front, rest, whole, plain, ?_, ends⟩, before, after, rfl, blank, blank'⟩
    -- The piece goes on to the second `#`, since neither a blank nor a digit is one.
    simp only [List.mem_append]
    rintro ((member | member) | member)
    · exact absurd (List.all_eq_true.mp blank _ member) (by decide)
    · exact absurd (List.all_eq_true.mp decimal.digits _ member) (by decide)
    · exact absurd (List.all_eq_true.mp blank' _ member) (by decide)

theorem writesDigits_iff (name : String) :
    WritesDigits name ↔ ∃ text, Decimal text ∧ Marks name text := by
  constructor
  · rintro ⟨digits, spelled, filled, all⟩
    obtain ⟨text, rfl⟩ : ∃ text : String, text.toList = digits :=
      ⟨.ofList digits, String.toList_ofList⟩
    have decimal : Decimal text := ⟨filled, all⟩
    exact ⟨text, decimal, (indexSpelling?_eq_some_iff decimal).mp spelled⟩
  · rintro ⟨text, decimal, marks⟩
    exact ⟨text.toList, (indexSpelling?_eq_some_iff decimal).mpr marks, decimal.filled,
      decimal.digits⟩

theorem indexInName?_of_marks (decimal : Decimal text) (value : decimalValue text = index.toNat)
    (marks : Marks name text) : indexInName? name = some (toString index) := by
  rw [indexInName?_eq, (indexSpelling?_eq_some_iff decimal).mpr marks, Option.map_some,
    String.ofList_toList, normalizeIndex_eq_toString decimal, value]
  rfl

def numberInName? (name : String) : Option UInt64 :=
  (indexInName? name).bind Text.readUInt64?

theorem numberInName?_of_marks (decimal : Decimal text) (value : decimalValue text = index.toNat)
    (marks : Marks name text) : numberInName? name = some index := by
  rw [numberInName?, indexInName?_of_marks decimal value marks, Option.bind_some,
    Text.readUInt64?_toString]

theorem indexInName?_eq_toString_iff (named : numberInName? name = some index) :
    indexInName? name = some (toString index) ↔ WritesDigits name := by
  rw [numberInName?, indexInName?_eq] at named
  rw [indexInName?_eq, WritesDigits]
  cases spelled : indexSpelling? name with
  | none => simp [spelled] at named
  | some cs =>
      obtain ⟨text, rfl⟩ : ∃ text : String, text.toList = cs :=
        ⟨.ofList cs, String.toList_ofList⟩
      simp only [spelled, Option.map_some, String.ofList_toList, Option.bind_some,
        Option.some.injEq, exists_eq_left'] at named ⊢
      constructor
      · intro numeral
        have decimal : Decimal (toString index) := Text.decimal_toString index.toNat
        rw [← numeral] at decimal
        refine ⟨?_, ?_⟩
        · intro empty
          exact decimal.filled (by simp [toList_normalizeIndex, empty])
        · rw [← all_isDigit_normalizeIndex]
          exact decimal.digits
      · rintro ⟨filled, all⟩
        have decimal : Decimal text := ⟨filled, all⟩
        rw [normalizeIndex_eq_toString decimal,
          (readUInt64?_normalizeIndex_iff decimal index).mp named]
        rfl

end

end Cadastre.Item
