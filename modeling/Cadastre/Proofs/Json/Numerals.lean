import Cadastre.Proofs.Json.Leaves

/-!
Every number is written as a numeral. That the numeral is grammatical does not mean that it is read
as the number again: reading rounds at each step, so that some doubles come back as others.
-/

namespace Cadastre

namespace Double

theorem fraction_pos {x : Double} (positive : 0 < x.significand) :
    0 < x.fraction.1 ∧ 0 < x.fraction.2 := by
  unfold fraction
  split
  · exact ⟨Nat.mul_pos positive (Nat.pow_pos (by decide)), Nat.one_pos⟩
  · exact ⟨positive, Nat.pow_pos (by decide)⟩

theorem Decimal.fraction_of_zero {d : Decimal} (zero : d.value = 0) :
    d.fraction.1 = 0 ∧ 0 < d.fraction.2 := by
  unfold fraction
  split
  · exact ⟨by simp [zero], Nat.one_pos⟩
  · exact ⟨zero, Nat.pow_pos (by decide)⟩

theorem low_pos {x : Double} (positive : 0 < x.significand) : 0 < x.neighbourhood.low := by
  simp only [neighbourhood]
  split <;> omega

theorem Decimal.roundsTo_of_zero {d : Decimal} {x : Double} (zero : d.value = 0)
    (positive : 0 < x.significand) : d.roundsTo x = false := by
  obtain ⟨top, bottom⟩ := fraction_of_zero zero
  have low : 0 < (x.quarters x.neighbourhood.low).1 :=
    (fraction_pos (x := ⟨false, x.neighbourhood.low, x.exponent - 2⟩) (low_pos positive)).1
  have product := Nat.mul_pos low bottom
  simp only [roundsTo, below, top, Nat.zero_mul, Bool.and_eq_false_iff]
  left
  split
  · exact decide_eq_false (by omega)
  · exact decide_eq_false (by omega)

def Decimal.Plain (d : Decimal) : Prop := d.value = 0 → d.exponent = 0

theorem Decimal.Plain.trimZeros {d : Decimal} (plain : d.Plain) (fuel : Nat) :
    (d.trimZeros fuel).Plain := by
  induction fuel generalizing d with
  | zero => exact plain
  | succ fuel ih =>
      rw [Decimal.trimZeros]
      split
      · apply ih
        intro zero
        simp only at zero
        omega
      · exact plain

theorem plain_search {x : Double} (positive : 0 < x.significand) (magnitude : Int)
    (digits fuel : Nat) : (search x magnitude digits fuel).Plain := by
  induction fuel generalizing digits with
  | zero => exact fun _ => rfl
  | succ fuel ih =>
      rw [search]
      split
      · rename_i found near
        intro zero
        have rounds := List.find?_some near
        rw [Decimal.roundsTo_of_zero zero positive] at rounds
        cases rounds
      · exact ih (digits + 1)

theorem plain_shortest {x : Double} (positive : 0 < x.significand) : x.shortest.Plain :=
  (plain_search positive _ _ _).trimZeros _

end Double

namespace Json

namespace Numeral

theorem digitsThen_append {digits rest : List Char} (all : digits.all Char.isDigit = true)
    (ends : ∀ c ∈ rest.head?, c.isDigit = false) :
    digitsThen (digits ++ rest) = (digits, rest) := by
  induction digits with
  | nil =>
      cases rest with
      | nil => rfl
      | cons c others => simp [digitsThen, ends c rfl]
  | cons c others ih =>
      simp only [List.all_cons, Bool.and_eq_true] at all
      have later := ih all.2
      simp only [digitsThen, Prod.mk.injEq] at later
      simp [digitsThen, all.1, later.1, later.2]

inductive Tail : List Char → Prop where
  | nothing : Tail []
  | exponent {sign : Char} {digits : List Char} : sign = '+' ∨ sign = '-' → digits ≠ [] →
      digits.all Char.isDigit = true → Tail ('e' :: sign :: digits)

theorem Tail.ends {cs : List Char} (tail : Tail cs) : ∀ c ∈ cs.head?, c.isDigit = false := by
  cases tail with
  | nothing => nofun
  | exponent =>
      rintro c ⟨⟩
      decide

theorem Tail.isSome_exponent? {cs : List Char} (tail : Tail cs) :
    (exponent? cs).isSome = true := by
  cases tail with
  | nothing => rfl
  | exponent sign filled all =>
      rcases sign with rfl | rfl <;> simp [exponent?, filled, all]

def sign (negative : Bool) : List Char := if negative then ['-'] else []

theorem isSome_ofChars?_sign (negative : Bool) {cs : List Char} (unsigned : cs.head? ≠ some '-') :
    (ofChars? (sign negative ++ cs)).isSome = (ofChars? cs).isSome := by
  cases negative with
  | false => rfl
  | true =>
      simp only [sign, ofChars?, ↓reduceIte, List.singleton_append, List.head?_cons, decide_true,
        List.tail_cons, unsigned, decide_false]
      split
      · rfl
      · split
        · split
          · rfl
          · simp
        · simp

section Parts

variable (negative : Bool) {whole fraction tail : List Char}

theorem unsigned_of_digits (digits : whole.all Char.isDigit = true) (filled : whole ≠ [])
    (rest : List Char) : (whole ++ rest).head? ≠ some '-' := by
  cases whole with
  | nil => exact absurd rfl filled
  | cons first others =>
      simp only [List.all_cons, Bool.and_eq_true] at digits
      intro minus
      obtain rfl := Option.some.inj minus
      exact absurd digits.1 (by decide)

theorem isSome_ofChars?_plain (digits : whole.all Char.isDigit = true) (filled : whole ≠ [])
    (lead : whole.head? = some '0' → whole = ['0']) (tailed : Tail tail) :
    (ofChars? (sign negative ++ (whole ++ tail))).isSome = true := by
  have cut := digitsThen_append digits tailed.ends
  have point : tail.head? ≠ some '.' := by
    intro point
    cases tailed <;> cases point
  have needless : ¬ (whole.head? = some '0' ∧ whole ≠ ['0']) := fun both => both.2 (lead both.1)
  have unsigned := unsigned_of_digits digits filled tail
  rw [isSome_ofChars?_sign negative unsigned]
  simp only [ofChars?, unsigned, decide_false, ↓reduceIte, cut]
  rw [if_neg (by simpa [filled] using needless), if_neg point, Option.isSome_map]
  exact tailed.isSome_exponent?

theorem isSome_ofChars?_pointed (digits : whole.all Char.isDigit = true) (filled : whole ≠ [])
    (lead : whole.head? = some '0' → whole = ['0']) (places : fraction.all Char.isDigit = true)
    (placed : fraction ≠ []) (tailed : Tail tail) :
    (ofChars? (sign negative ++ (whole ++ '.' :: (fraction ++ tail)))).isSome = true := by
  have cut : digitsThen (whole ++ '.' :: (fraction ++ tail))
      = (whole, '.' :: (fraction ++ tail)) := by
    refine digitsThen_append digits ?_
    rintro c ⟨⟩
    decide
  have needless : ¬ (whole.head? = some '0' ∧ whole ≠ ['0']) := fun both => both.2 (lead both.1)
  have unsigned := unsigned_of_digits digits filled ('.' :: (fraction ++ tail))
  rw [isSome_ofChars?_sign negative unsigned]
  simp only [ofChars?, unsigned, decide_false, ↓reduceIte, cut]
  rw [if_neg (by simpa [filled] using needless), if_pos (by rfl), List.tail_cons,
    digitsThen_append places tailed.ends]
  simp [placed, tailed.isSome_exponent?]

end Parts

end Numeral

end Json

namespace Double

open Json Json.Numeral

theorem lead_toDigits (n : Nat) (zero : (Nat.toDigits 10 n).head? = some '0') : n = 0 := by
  apply Classical.byContradiction
  intro positive
  exact Text.head?_toDigits_ne_zero (Nat.pos_of_ne_zero positive) zero

section Padded

variable {cs padded : List Char} {count : Nat}
  (padding : List.replicate (count + 1 - cs.length) '0' ++ cs = padded)

include padding

theorem length_padded : count < padded.length := by
  rw [← padding, List.length_append, List.length_replicate]
  omega

theorem lead_padded (lead : cs.head? ≠ some '0')
    (zero : (padded.take (padded.length - count)).head? = some '0') :
    padded.take (padded.length - count) = ['0'] := by
  have long := length_padded padding
  by_cases reach : count < cs.length
  · have unpadded : count + 1 - cs.length = 0 := by omega
    rw [unpadded, List.replicate_zero, List.nil_append] at padding
    subst padding
    rw [List.head?_take, if_neg (by omega)] at zero
    exact absurd zero lead
  · have single : padded.length - count = 1 := by
      rw [← padding, List.length_append, List.length_replicate]
      omega
    rw [single] at zero ⊢
    cases padded with
    | nil => cases zero
    | cons first others =>
        obtain rfl := Option.some.inj zero
        rfl

end Padded

theorem isSome_ofChars?_positional (negative : Bool) {d : Decimal} (plain : d.Plain) :
    (ofChars? (sign negative ++ positional (Nat.toDigits 10 d.value) d.exponent)).isSome
      = true := by
  have digits := Text.all_isDigit_toDigits d.value
  have filled : Nat.toDigits 10 d.value ≠ [] := Nat.toDigits_ne_nil
  have zeros (count : Nat) : (List.replicate count '0').all Char.isDigit = true := by simp
  have exponent : (Nat.toDigits 10 d.value).head? = some '0' → d.exponent = 0 := by
    intro zero
    exact plain (lead_toDigits _ zero)
  simp only [positional]
  split
  · have lead : (Nat.toDigits 10 d.value ++ List.replicate d.exponent.toNat '0').head? = some '0' →
        Nat.toDigits 10 d.value ++ List.replicate d.exponent.toNat '0' = ['0'] := by
      intro zero
      rw [List.head?_append_of_ne_nil _ filled] at zero
      rw [exponent zero, lead_toDigits _ zero]
      rfl
    have single : ['0'].all Char.isDigit = true := rfl
    have read := isSome_ofChars?_pointed negative (by simp [digits]) (by simp) lead single
      (by decide) Tail.nothing
    simpa using read
  · rename_i below
    have unlike : (Nat.toDigits 10 d.value).head? ≠ some '0' := by
      intro zero
      exact below (exponent zero).ge
    have places : 0 < (-d.exponent).toNat := by omega
    generalize (-d.exponent).toNat = count at places
    generalize padding : List.replicate (count + 1 - (Nat.toDigits 10 d.value).length) '0'
      ++ Nat.toDigits 10 d.value = padded
    have all : padded.all Char.isDigit = true := by
      rw [← padding, List.all_append, zeros, digits]
      rfl
    rw [List.all_eq_true] at all
    have whole : (padded.take (padded.length - count)).all Char.isDigit = true :=
      List.all_eq_true.mpr fun c member => all c (List.mem_of_mem_take member)
    have fraction : (padded.drop (padded.length - count)).all Char.isDigit = true :=
      List.all_eq_true.mpr fun c member => all c (List.mem_of_mem_drop member)
    have long := length_padded padding
    have integral : padded.take (padded.length - count) ≠ [] := by
      apply List.ne_nil_of_length_pos
      rw [List.length_take]
      omega
    have placed : padded.drop (padded.length - count) ≠ [] := by
      apply List.ne_nil_of_length_pos
      rw [List.length_drop]
      omega
    simpa using isSome_ofChars?_pointed negative whole integral (lead_padded padding unlike)
      fraction placed Tail.nothing

theorem isSome_ofChars?_scientific (negative : Bool) (n : Nat) (magnitude : Int) :
    (ofChars? (sign negative ++ scientific (Nat.toDigits 10 n) magnitude)).isSome = true := by
  have digits := Text.all_isDigit_toDigits n
  have filled : Nat.toDigits 10 n ≠ [] := Nat.toDigits_ne_nil
  have tail : Tail ('e' :: (if 0 ≤ magnitude then '+' else '-')
      :: Nat.toDigits 10 magnitude.natAbs) := by
    refine .exponent ?_ Nat.toDigits_ne_nil (Text.all_isDigit_toDigits _)
    split
    · exact Or.inl rfl
    · exact Or.inr rfl
  have lead := lead_toDigits n
  generalize Nat.toDigits 10 n = cs at digits filled lead
  cases cs with
  | nil => exact absurd rfl filled
  | cons first others =>
      simp only [List.all_cons, Bool.and_eq_true] at digits
      have single : [first].all Char.isDigit = true := by simp [digits.1]
      have alone : [first].head? = some '0' → [first] = ['0'] := by simp
      simp only [scientific]
      split
      · rename_i one
        obtain rfl := List.eq_nil_of_length_eq_zero (Nat.succ.inj one)
        simpa using isSome_ofChars?_plain negative single (by simp) alone tail
      · rename_i more
        have placed : others ≠ [] := by
          rintro rfl
          exact more rfl
        simpa using isSome_ofChars?_pointed negative single (by simp) alone digits.2 placed tail

theorem isSome_ofChars?_text (x : Double) : (ofChars? x.text).isSome = true := by
  cases zero : x.isZero with
  | true =>
      simp only [text, zero, ↓reduceIte]
      cases x.negative <;> decide
  | false =>
      have positive : 0 < x.significand := by
        simp only [isZero, decide_eq_false_iff_not] at zero
        omega
      simp only [text, zero, Bool.false_eq_true, ↓reduceIte]
      generalize x.shortest.exponent + (Nat.toDigits 10 x.shortest.value).length - 1 = magnitude
      cases isPositional magnitude with
      | true => exact isSome_ofChars?_positional x.negative (plain_shortest positive)
      | false => exact isSome_ofChars?_scientific x.negative _ magnitude

end Double

theorem Json.Number.isSome_ofChars?_text (number : Number) :
    (Numeral.ofChars? number.text).isSome = true := by
  cases number with
  | double x => exact x.isSome_ofChars?_text
  | integer value =>
      cases value with
      | ofNat n =>
          have text : (toString (Int.ofNat n)).toList = Nat.toDigits 10 n := Nat.toList_repr
          rw [Number.text, text, Numeral.ofChars?_toDigits]
          rfl
      | negSucc n =>
          have text : (toString (Int.negSucc n)).toList = '-' :: Nat.toDigits 10 (n + 1) := by
            change ("-" ++ (n + 1).repr).toList = _
            rw [String.toList_append, Nat.toList_repr]
            rfl
          rw [Number.text, text, Numeral.ofChars?_minus]
          rfl

end Cadastre
