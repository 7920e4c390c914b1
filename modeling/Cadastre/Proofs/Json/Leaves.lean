import Cadastre.Proofs.Json.Lexing
import Mathlib.Data.List.TakeWhile
import Mathlib.Tactic.IntervalCases

/-!
The leaves of a written value as tokens: strings with their escapes, and whole numbers.
-/

namespace Cadastre.Json

def isEscaped (c : Char) : Bool := c = '"' || c = '\\' || c.toNat < 0x20

def Piece.ofChar (c : Char) : Piece :=
  if c.toNat < 0x20 ∧ c ∉ ['\x08', '\x0c', '\n', '\r', '\t'] then .unit c.toNat else .char c

theorem Piece.readOnto_ofChar (done cs : List Char) :
    readOnto done (cs.map ofChar) = some (.ofList (done.reverse ++ cs)) := by
  induction cs generalizing done with
  | nil => simp [readOnto]
  | cons c rest ih =>
      have placed : readOnto done (ofChar c :: rest.map ofChar)
          = readOnto (c :: done) (rest.map ofChar) := by
        by_cases control : c.toNat < 0x20 ∧ c ∉ ['\x08', '\x0c', '\n', '\r', '\t']
        · have whole : isHigh c.toNat = false ∧ isLow c.toNat = false := by
            simp only [isHigh, isLow, Bool.and_eq_false_iff, decide_eq_false_iff_not]
            omega
          have same : Char.ofNat c.toNat = c := Char.ofNat_toNat c
          simp only [ofChar, control, not_false_eq_true, and_self, ↓reduceIte]
          cases rest.map ofChar with
          | nil => simp [readOnto, whole, same]
          | cons next others =>
              cases next <;> simp [readOnto, whole, same]
        · simp only [ofChar, control, ↓reduceIte]
          rw [readOnto]
      rw [List.map_cons, placed, ih]
      simp

theorem Piece.text?_ofChar (s : String) : text? (s.toList.map ofChar) = some s := by
  simp [text?, readOnto_ofChar]

namespace Lexer

theorem behind_control {value : Nat} (small : value < 0x20) (done : List Token)
    (pieces : List Piece) :
    behind ⟨done, .escape pieces⟩
        ['u', '0', '0', Nat.digitChar (value / 16), Nat.digitChar (value % 16)]
      = some ⟨done, .text (.unit value :: pieces) true⟩ := by
  interval_cases value <;> rfl

theorem behind_escape (done : List Token) (pieces : List Piece) (escaped : Bool) (c : Char) :
    behind ⟨done, .text pieces escaped⟩ (escape c)
      = some ⟨done, .text (.ofChar c :: pieces) (escaped || isEscaped c)⟩ := by
  unfold escape
  split
  case h_8 =>
    rename_i quote backslash _ _ _ _ _
    split
    · rename_i control
      rw [behind_cons]
      simp only [step_text, Char.reduceEq, ↓reduceIte, Option.bind_some]
      rw [behind_control control]
      simp_all [Piece.ofChar, isEscaped]
    · rename_i plain
      have unescaped : isEscaped c = false := by simp_all [isEscaped]
      simp_all [behind_cons, step_text, Piece.ofChar]
  all_goals simp [behind_cons, step_text, step_escape, escaped?, Piece.ofChar, isEscaped]

theorem behind_flatMap_escape (done : List Token) (pieces : List Piece) (escaped : Bool)
    (cs : List Char) :
    behind ⟨done, .text pieces escaped⟩ (cs.flatMap escape)
      = some ⟨done, .text ((cs.map Piece.ofChar).reverse ++ pieces)
          (escaped || cs.any isEscaped)⟩ := by
  induction cs generalizing pieces escaped with
  | nil => simp
  | cons c rest ih =>
      rw [List.flatMap_cons, behind_append, behind_escape, Option.bind_some, ih]
      simp [Bool.or_assoc]

end Lexer

def Token.ofString (s : String) : Token := .text (some s) (s.toList.any isEscaped)

theorem closes_quote (s : String) : Closes (quote s) [.ofString s] := fun done => by
  rw [quote, List.append_assoc, List.singleton_append, Lexer.behind_cons]
  simp only [Lexer.step_between, Lexer.enter, Lexer.isSpace, Char.reduceEq, decide_false,
    Bool.or_self, Bool.false_eq_true, ↓reduceIte, Option.bind_some]
  rw [Lexer.behind_append, Lexer.behind_flatMap_escape, Option.bind_some, Lexer.behind_cons]
  simp only [Lexer.step_text, ↓reduceIte, Option.bind_some, Lexer.behind_nil, List.append_nil,
    List.reverse_reverse, Piece.text?_ofChar, Bool.false_or, Token.ofString]
  rfl

def Number.Exact (number : Number) : Prop :=
  (Numeral.ofChars? number.text).bind Numeral.number? = some number

instance (number : Number) : Decidable number.Exact :=
  inferInstanceAs (Decidable (_ = _))

theorem isWordChar_of_isDigit {c : Char} (digit : c.isDigit = true) :
    Lexer.isWordChar c = true := by
  simp [Lexer.isWordChar, Char.isAlphanum, digit]

theorem Numeral.digitsThen_digits {cs : List Char} (digits : cs.all Char.isDigit = true) :
    digitsThen cs = (cs, []) := by
  rw [List.all_eq_true] at digits
  simp only [digitsThen, Prod.mk.injEq, List.takeWhile_eq_self_iff, List.dropWhile_eq_nil_iff]
  exact ⟨digits, digits⟩

theorem needless_zero_toDigits (n : Nat) :
    ¬ ((Nat.toDigits 10 n).head? = some '0' ∧ Nat.toDigits 10 n ≠ ['0']) := by
  rintro ⟨zero, more⟩
  cases n with
  | zero => exact more rfl
  | succ n => exact Text.head?_toDigits_ne_zero (Nat.succ_pos n) zero

theorem Numeral.ofChars?_toDigits (n : Nat) :
    ofChars? (Nat.toDigits 10 n) = some ⟨false, Nat.toDigits 10 n, none, none⟩ := by
  have digits := Text.all_isDigit_toDigits n
  have unsigned : (Nat.toDigits 10 n).head? ≠ some '-' := by
    intro minus
    have member := List.mem_of_head? minus
    exact absurd (List.all_eq_true.mp digits _ member) (by decide)
  have filled : (Nat.toDigits 10 n).isEmpty = false := by simp
  have lead := needless_zero_toDigits n
  simp only [ofChars?, unsigned, decide_false, ↓reduceIte,
    digitsThen_digits digits, filled, Bool.false_or]
  rw [if_neg (by simpa using lead)]
  rfl

theorem Numeral.ofChars?_minus (n : Nat) :
    ofChars? ('-' :: Nat.toDigits 10 n) = some ⟨true, Nat.toDigits 10 n, none, none⟩ := by
  have digits := Text.all_isDigit_toDigits n
  have filled : (Nat.toDigits 10 n).isEmpty = false := by simp
  have lead := needless_zero_toDigits n
  simp only [ofChars?, List.head?_cons, decide_true, ↓reduceIte, List.tail_cons,
    digitsThen_digits digits, filled, Bool.false_or]
  rw [if_neg (by simpa using lead)]
  rfl

theorem Numeral.number?_toDigits {n : Nat} (below : n < 2 ^ 64) :
    number? ⟨false, Nat.toDigits 10 n, none, none⟩ = some (.integer n) := by
  simp only [number?, Option.isSome_none, Bool.or_self, Bool.false_eq_true, ↓reduceIte, Nat.pow_eq,
    Nat.ofDigitChars_ten_toDigits, below]

theorem Numeral.number?_minus {n : Nat} (above : n + 1 ≤ 2 ^ 63) :
    number? ⟨true, Nat.toDigits 10 (n + 1), none, none⟩ = some (.integer (.negSucc n)) := by
  simp only [number?, Option.isSome_none, Bool.or_self, Bool.false_eq_true, ↓reduceIte, Nat.pow_eq,
    Nat.ofDigitChars_ten_toDigits, Nat.succ_ne_zero, above]
  rfl

theorem Token.ofWord?_of_head {cs : List Char}
    (head : cs.head? ≠ some 'n' ∧ cs.head? ≠ some 't' ∧ cs.head? ≠ some 'f') :
    ofWord? cs = (Numeral.ofChars? cs).map fun numeral => .leaf (.number numeral.number?) := by
  unfold ofWord?
  rw [if_neg (by rintro rfl; exact head.1 rfl), if_neg (by rintro rfl; exact head.2.1 rfl),
    if_neg (by rintro rfl; exact head.2.2 rfl)]

theorem Number.exact_integer {value : Int} (lower : -2 ^ 63 ≤ value) (upper : value < 2 ^ 64) :
    Exact (.integer value) := by
  cases value with
  | ofNat n =>
      have text : (toString (Int.ofNat n)).toList = Nat.toDigits 10 n := Nat.toList_repr
      have below : n < 2 ^ 64 := Int.ofNat_lt.mp upper
      rw [Exact, Number.text, text, Numeral.ofChars?_toDigits, Option.bind_some,
        Numeral.number?_toDigits below]
      rfl
  | negSucc n =>
      have text : (toString (Int.negSucc n)).toList = '-' :: Nat.toDigits 10 (n + 1) := by
        change ("-" ++ (n + 1).repr).toList = _
        rw [String.toList_append, Nat.toList_repr]
        rfl
      have above : n + 1 ≤ 2 ^ 63 := by omega
      rw [Exact, Number.text, text, Numeral.ofChars?_minus, Option.bind_some,
        Numeral.number?_minus above]

namespace Numeral

theorem isWord_of_digitsThen {cs : List Char}
    (rest : (digitsThen cs).2.all Lexer.isWordChar = true) :
    cs.all Lexer.isWordChar = true := by
  have parts : (digitsThen cs).1 ++ (digitsThen cs).2 = cs := List.takeWhile_append_dropWhile
  have digits : (digitsThen cs).1.all Lexer.isWordChar = true := by
    rw [List.all_eq_true]
    intro c member
    exact isWordChar_of_isDigit (List.mem_takeWhile_imp member)
  rw [← parts, List.all_append, digits, rest]
  rfl

theorem isWord_of_head {first : Char} {cs : List Char} (word : Lexer.isWordChar first = true)
    (head : cs.head? = some first) (tail : cs.tail.all Lexer.isWordChar = true) :
    cs.all Lexer.isWordChar = true := by
  obtain ⟨rest, rfl⟩ := List.head?_eq_some_iff.mp head
  rw [List.all_cons, word]
  exact tail

theorem isWord_of_exponent? {cs : List Char} {exponent : Option Int}
    (read : exponent? cs = some exponent) : cs.all Lexer.isWordChar = true := by
  cases cs with
  | nil => rfl
  | cons mark rest =>
      simp only [exponent?, Option.ite_none_right_eq_some, Bool.and_eq_true, Bool.or_eq_true,
        decide_eq_true_eq] at read
      obtain ⟨⟨⟨letter, _⟩, digits⟩, _⟩ := read
      have first : Lexer.isWordChar mark = true := by
        rcases letter with rfl | rfl <;> decide
      have word {cs : List Char} (digits : cs.all Char.isDigit = true) :
          cs.all Lexer.isWordChar = true :=
        List.all_eq_true.mpr fun c member =>
          isWordChar_of_isDigit (List.all_eq_true.mp digits c member)
      rw [List.all_cons, first, Bool.true_and]
      split at digits
      · rename_i sign
        rcases sign with minus | plus
        · exact isWord_of_head (by decide) minus (word digits)
        · exact isWord_of_head (by decide) plus (word digits)
      · exact word digits

theorem isWord_of_ofChars? {cs : List Char} {numeral : Numeral}
    (read : ofChars? cs = some numeral) :
    cs.all Lexer.isWordChar = true ∧
      ∃ c, cs.head? = some c ∧ (c = '-' ∨ c.isDigit = true) := by
  simp only [ofChars?, Option.ite_none_left_eq_some] at read
  obtain ⟨filled, read⟩ := read
  generalize unsigned : (if cs.head? = some '-' then cs.tail else cs) = body at filled read
  have rest : (digitsThen body).2.all Lexer.isWordChar = true := by
    split at read
    · rename_i point
      simp only [Option.ite_none_left_eq_some, Option.map_eq_some_iff] at read
      obtain ⟨_, _, exponent, _⟩ := read
      exact isWord_of_head (by decide) point (isWord_of_digitsThen (isWord_of_exponent? exponent))
    · obtain ⟨_, exponent, _⟩ := Option.map_eq_some_iff.mp read
      exact isWord_of_exponent? exponent
  have word := isWord_of_digitsThen rest
  split at unsigned
  · rename_i minus
    subst unsigned
    exact ⟨isWord_of_head (by decide) minus word, '-', minus, Or.inl rfl⟩
  · subst unsigned
    refine ⟨word, ?_⟩
    cases digits : cs.takeWhile Char.isDigit with
    | nil => simp [digitsThen, digits] at filled
    | cons c others =>
        have member : c ∈ cs.takeWhile Char.isDigit := by simp [digits]
        refine ⟨c, ?_, Or.inr (List.mem_takeWhile_imp member)⟩
        rw [← List.takeWhile_append_dropWhile (p := Char.isDigit) (l := cs), digits]
        rfl

end Numeral

theorem spells_numeral {cs : List Char} {numeral : Numeral}
    (read : Numeral.ofChars? cs = some numeral) : Spells cs [.leaf (.number numeral.number?)] := by
  obtain ⟨word, c, head, first⟩ := Numeral.isWord_of_ofChars? read
  have other {letter : Char} (plain : letter ≠ '-' ∧ letter.isDigit = false) :
      cs.head? ≠ some letter := by
    rw [head]
    rintro ⟨⟩
    rcases first with minus | digit
    · exact plain.1 minus
    · rw [plain.2] at digit
      cases digit
  refine spells_word ?_ word ?_
  · intro empty
    rw [empty] at head
    cases head
  · rw [Token.ofWord?_of_head ⟨other (by decide), other (by decide), other (by decide)⟩, read,
      Option.map_some]

theorem Number.Exact.spells {number : Number} (exact : number.Exact) :
    Spells number.text [.leaf (.number (some number))] := by
  obtain ⟨numeral, read, meant⟩ := Option.bind_eq_some_iff.mp exact
  rw [← meant]
  exact spells_numeral read

theorem spells_null : Spells "null".toList [.leaf .null] :=
  spells_word (by decide) (by decide) rfl

theorem spells_bool (value : Bool) :
    Spells (if value then "true" else "false").toList [.leaf (.bool value)] := by
  cases value
  · exact spells_word (by decide) (by decide) rfl
  · exact spells_word (by decide) (by decide) rfl

end Cadastre.Json
