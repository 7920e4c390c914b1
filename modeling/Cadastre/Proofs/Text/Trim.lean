import Cadastre.Proofs.Text.Numeral
import Cadastre.Text.Blank

/-!
Trimming. What is cut off consists of blanks, and blanks around a text that begins and ends with
other characters are cut off whole; digits are no blanks.
-/

namespace Cadastre.Text

variable {before after cs digits : List Char}

theorem eq_append_trimChars (cs : List Char) : ∃ before after,
    cs = before ++ trimChars cs ++ after ∧ before.all isBlank = true ∧
      after.all isBlank = true := by
  refine ⟨cs.takeWhile isBlank, ((cs.dropWhile isBlank).reverse.takeWhile isBlank).reverse,
    ?_, List.all_takeWhile, by rw [List.all_reverse, List.all_takeWhile]⟩
  rw [trimChars, List.append_assoc, ← List.reverse_append, List.takeWhile_append_dropWhile,
    List.reverse_reverse, List.takeWhile_append_dropWhile]

theorem trimChars_padded {first last : Char} (blank : before.all isBlank = true)
    (blank' : after.all isBlank = true) (head : cs.head? = some first)
    (tail : cs.getLast? = some last) (opens : isBlank first = false)
    (closes : isBlank last = false) : trimChars (before ++ cs ++ after) = cs := by
  obtain ⟨rest, rfl⟩ := List.head?_eq_some_iff.mp head
  obtain ⟨body, ending⟩ := List.getLast?_eq_some_iff.mp tail
  have blank'' : ∀ c ∈ after.reverse, isBlank c = true := by
    intro c member
    exact List.all_eq_true.mp blank' c (List.mem_reverse.mp member)
  rw [trimChars, List.append_assoc, List.dropWhile_append_of_pos (List.all_eq_true.mp blank),
    List.cons_append, List.dropWhile_cons_of_neg (by simp [opens]), ← List.cons_append, ending,
    List.reverse_append, List.dropWhile_append_of_pos blank'', List.reverse_append,
    List.reverse_singleton, List.singleton_append,
    List.dropWhile_cons_of_neg (by simp [closes]), List.reverse_cons, List.reverse_reverse]

theorem isBlank_of_isDigit {c : Char} (digit : c.isDigit = true) : isBlank c = false := by
  have value := Char.isDigit_iff_toNat.mp digit
  have lower : 48 ≤ c.toNat := value.1
  have upper : c.toNat ≤ 57 := value.2
  simp [isBlank, blankRanges]
  omega

theorem isBlank_of_mem_digits (all : digits.all Char.isDigit = true) {c : Char}
    (member : c ∈ digits) : isBlank c = false :=
  isBlank_of_isDigit (List.all_eq_true.mp all c member)

theorem trimChars_signed {sign : List Char} (blank : before.all isBlank = true)
    (blank' : after.all isBlank = true) (signed : sign = [] ∨ sign = ['+'])
    (filled : digits ≠ []) (all : digits.all Char.isDigit = true) :
    trimChars (before ++ (sign ++ digits) ++ after) = sign ++ digits := by
  obtain ⟨last, tail⟩ := Option.isSome_iff_exists.mp (List.getLast?_isSome.mpr filled)
  have closes := isBlank_of_mem_digits all (List.mem_of_getLast? tail)
  rcases signed with rfl | rfl
  · obtain ⟨first, head⟩ := Option.isSome_iff_exists.mp (List.isSome_head?.mpr filled)
    have opens := isBlank_of_mem_digits all (List.mem_of_head? head)
    exact trimChars_padded blank blank' head tail opens closes
  · have tail' : (['+'] ++ digits).getLast? = some last := by
      rw [List.getLast?_append, tail, Option.some_or]
    exact trimChars_padded blank blank' rfl tail' (by decide) closes

theorem unsigned_trimChars {sign : List Char} (blank : before.all isBlank = true)
    (blank' : after.all isBlank = true) (signed : sign = [] ∨ sign = ['+'])
    (filled : digits ≠ []) (all : digits.all Char.isDigit = true) :
    unsigned (trimChars (before ++ (sign ++ digits) ++ after)) = digits := by
  rw [trimChars_signed blank blank' signed filled all]
  rcases signed with rfl | rfl
  · exact unsigned_of_digits all
  · rfl

theorem trimChars_eq_digits_iff (filled : digits ≠ []) (all : digits.all Char.isDigit = true)
    (cs : List Char) : trimChars cs = digits ↔ ∃ before after,
      cs = before ++ digits ++ after ∧ before.all isBlank = true ∧ after.all isBlank = true := by
  constructor
  · rintro rfl
    exact eq_append_trimChars cs
  · rintro ⟨before, after, rfl, blank, blank'⟩
    exact trimChars_signed blank blank' (Or.inl rfl) filled all

end Cadastre.Text
