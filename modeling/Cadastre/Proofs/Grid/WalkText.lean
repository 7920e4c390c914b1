import Cadastre.Proofs.Grid.Partition
import Cadastre.Proofs.Grid.Walk
import Cadastre.Proofs.Text.Words

/-!
Walks that are written down, a point on each line. The first line that has text but does not begin
with two numbers is the one that is named; without such a line, the walk is that of the points on
the lines that have text, one after the other.
-/

namespace Cadastre

namespace Walk

open Text (isBlank)

variable {line : List Char} {lines : List (List Char)} {point : Point} {walk : Walk}
  {number index : Nat}

/-- Digits for the number, perhaps with a plus in front. -/
def Denotes (word : List Char) (number : UInt32) : Prop :=
  ∃ sign digits, word = sign ++ digits ∧ (sign = [] ∨ sign = ['+']) ∧ digits ≠ [] ∧
    digits.all Char.isDigit = true ∧ Nat.ofDigitChars 10 digits 0 = number.toNat

/-- Two numbers between blanks, with anything behind another blank. -/
def Begins (line : List Char) (point : Point) : Prop :=
  ∃ before x gap y after, line = before ++ x ++ gap ++ y ++ after ∧
    before.all isBlank = true ∧ Denotes x point.x ∧ gap ≠ [] ∧ gap.all isBlank = true ∧
    Denotes y point.y ∧ ∀ c ∈ after.head?, isBlank c = true

def linesOf (text : String) : List (List Char) := text.toList.splitOn '\n'

def filledOf (lines : List (List Char)) : List (List Char) :=
  lines.filter fun line => !line.all isBlank

def WrittenOn (lines : List (List Char)) (walk : Walk) : Prop :=
  List.Forall₂ Begins (filledOf lines) walk

def Unfit (line : List Char) : Prop :=
  line.all isBlank = false ∧ ∀ point, ¬ Begins line point

def FirstUnfit (lines : List (List Char)) (index : Nat) : Prop :=
  (∃ line, lines[index]? = some line ∧ Unfit line) ∧
    ∀ earlier < index, ∀ line, lines[earlier]? = some line → ¬ Unfit line

section Points

variable {word : List Char} {n : UInt32}

theorem readBelow_eq_some_iff_denotes (word : List Char) (n : UInt32) :
    Text.readBelow UInt32.size word = some n.toNat ↔ Denotes word n := by
  rw [Text.readBelow_eq_some_iff]
  constructor
  · rintro ⟨filled, all, value, -⟩
    obtain ⟨sign, signed, whole⟩ := Text.eq_append_unsigned word
    exact ⟨sign, _, whole, signed, filled, all, value⟩
  · rintro ⟨sign, digits, rfl, signed, filled, all, value⟩
    have bare : Text.unsigned (sign ++ digits) = digits := by
      rcases signed with rfl | rfl
      · exact Text.unsigned_of_digits all
      · rfl
    rw [bare]
    exact ⟨filled, all, value, n.toNat_lt⟩

theorem Denotes.ne_nil (denotes : Denotes word n) : word ≠ [] := by
  obtain ⟨sign, digits, rfl, -, filled, -⟩ := denotes
  simp [filled]

theorem Denotes.plain (denotes : Denotes word n) : ∀ c ∈ word, isBlank c = false := by
  obtain ⟨sign, digits, rfl, signed, -, all, -⟩ := denotes
  intro c member
  rcases List.mem_append.mp member with first | digit
  · rcases signed with rfl | rfl
    · cases first
    · rw [List.mem_singleton.mp first]
      decide
  · exact Text.isBlank_of_mem_digits all digit

theorem denotes_of_readBelow (read : Text.readBelow UInt32.size word = some number) :
    Denotes word (UInt32.ofNat number) := by
  have below := ((Text.readBelow_eq_some_iff _ _ _).mp read).2.2.2
  rw [← readBelow_eq_some_iff_denotes, UInt32.toNat_ofNat_of_lt' below]
  exact read

theorem words_of_begins (begins : Begins line point) : ∃ x y more,
    Text.words line = x :: y :: more ∧ Denotes x point.x ∧ Denotes y point.y := by
  obtain ⟨before, x, gap, y, after, rfl, blank, left, apart, blank', down, ends⟩ := begins
  refine ⟨x, y, Text.words after, ?_, left, down⟩
  have behind : ∀ c ∈ (gap ++ (y ++ after)).head?, isBlank c = true := by
    intro c first
    cases gap with
    | nil => exact absurd rfl apart
    | cons d gap =>
        cases first
        exact (Bool.and_eq_true _ _ ▸ blank').1
  rw [List.append_assoc, List.append_assoc, List.append_assoc, Text.words_append_of_blank blank,
    Text.words_append_word left.ne_nil left.plain behind, Text.words_append_of_blank blank',
    Text.words_append_word down.ne_nil down.plain ends]

theorem begins_of_words {x y : List Char} {more : List (List Char)}
    (words : Text.words line = x :: y :: more) (left : Denotes x point.x) (down : Denotes y point.y) :
    Begins line point := by
  obtain ⟨before, rest, rfl, blank, -, -, ends, next⟩ := Text.parts_of_words words
  obtain ⟨gap, after, rfl, blank', -, plain, ends', -⟩ := Text.parts_of_words next
  refine ⟨before, x, gap, y, after, by simp, blank, left, ?_, blank', down, ends'⟩
  rintro rfl
  obtain ⟨first, head⟩ := Option.isSome_iff_exists.mp (List.isSome_head?.mpr down.ne_nil)
  have opens := plain first (List.mem_of_head? head)
  rw [ends first (by simp [head])] at opens
  cases opens

theorem point?_eq_some_iff (line : List Char) (point : Point) :
    point? line = some point ↔ Begins line point := by
  constructor
  · intro found
    unfold point? at found
    split at found
    · rename_i x y more words
      split at found
      · rename_i left down
        cases found
        exact begins_of_words words (denotes_of_readBelow left) (denotes_of_readBelow down)
      · cases found
    · cases found
  · intro begins
    obtain ⟨x, y, more, words, left, down⟩ := words_of_begins begins
    rw [point?, words]
    simp only [(readBelow_eq_some_iff_denotes _ _).mpr left,
      (readBelow_eq_some_iff_denotes _ _).mpr down, UInt32.ofNat_toNat]

instance (line : List Char) (point : Point) : Decidable (Begins line point) :=
  decidable_of_iff _ (point?_eq_some_iff line point)

theorem unfit_iff (line : List Char) :
    Unfit line ↔ line.all isBlank = false ∧ point? line = none := by
  rw [Unfit, Option.eq_none_iff_forall_ne_some]
  simp only [ne_eq, point?_eq_some_iff]

instance (line : List Char) : Decidable (Unfit line) := decidable_of_iff _ (unfit_iff line).symm

end Points

section Lines

theorem point?_dropReturn (line : List Char) : point? (Text.dropReturn line) = point? line := by
  rw [point?, Text.words_dropReturn, point?]

theorem readFrom_dropReturn (closed lines : List (List Char)) :
    readFrom number (closed.map Text.dropReturn ++ lines) = readFrom number (closed ++ lines) := by
  induction closed generalizing number with
  | nil => rfl
  | cons line closed ih =>
      rw [List.map_cons, List.cons_append, List.cons_append, readFrom, readFrom,
        Text.all_isBlank_dropReturn, point?_dropReturn, ih]

theorem readFrom_append_nil (lines : List (List Char)) :
    readFrom number (lines ++ [[]]) = readFrom number lines := by
  induction lines generalizing number with
  | nil => rfl
  | cons line lines ih => rw [List.cons_append, readFrom, readFrom, ih]

theorem read_eq (text : String) : read text = readFrom 1 (linesOf text) := by
  obtain ⟨closed, last, whole, lines⟩ := Text.lines_eq text.toList
  rw [read, linesOf, whole, lines, readFrom_dropReturn]
  split
  · rename_i nothing
    rw [nothing, readFrom_append_nil, List.append_nil]
  · rfl

theorem FirstUnfit.readFrom (first : FirstUnfit lines index) :
    readFrom number lines = .error (.unreadableLine (number + index)) := by
  obtain ⟨⟨found, held, unfit⟩, before⟩ := first
  rw [unfit_iff] at unfit
  induction lines generalizing number index with
  | nil => cases held
  | cons line lines ih =>
      cases index with
      | zero =>
          cases held
          simp [Walk.readFrom, unfit.1, unfit.2]
      | succ index =>
          have rest := @ih (number + 1) index
            (fun earlier less line held => before (earlier + 1) (by omega) line held) held
          have fit := before 0 (by omega) line rfl
          rw [unfit_iff, not_and] at fit
          rw [Walk.readFrom, rest, Nat.add_assoc, Nat.add_comm 1 index]
          split
          · rfl
          · rename_i filled
            cases point : point? line with
            | none => exact absurd point (fit (by simpa using filled))
            | some point => rfl

theorem WrittenOn.readFrom (written : WrittenOn lines walk) : readFrom number lines = .ok walk := by
  induction lines generalizing number walk with
  | nil =>
      cases written
      rfl
  | cons line lines ih =>
      unfold Walk.readFrom
      split
      · rename_i blank
        apply ih
        rwa [WrittenOn, filledOf, List.filter_cons_of_neg (by simp [blank])] at written
      · rename_i filled
        rw [WrittenOn, filledOf, List.filter_cons_of_pos (by simp [filled])] at written
        cases written with
        | @cons _ point _ rest begins others =>
            rw [(point?_eq_some_iff line point).mpr begins, ih others]
            rfl

theorem unfit_or_written (lines : List (List Char)) :
    (∃ index, FirstUnfit lines index) ∨ ∃ walk, WrittenOn lines walk := by
  induction lines with
  | nil => exact Or.inr ⟨[], .nil⟩
  | cons line lines ih =>
      by_cases unfit : Unfit line
      · exact Or.inl ⟨0, ⟨line, rfl, unfit⟩, fun _ before => absurd before (Nat.not_lt_zero _)⟩
      · rcases ih with ⟨index, held, before⟩ | ⟨walk, written⟩
        · refine Or.inl ⟨index + 1, held, ?_⟩
          intro earlier less other found
          cases earlier with
          | zero =>
              cases found
              exact unfit
          | succ earlier => exact before earlier (by omega) other found
        · refine Or.inr ?_
          by_cases blank : line.all isBlank = true
          · refine ⟨walk, ?_⟩
            rwa [WrittenOn, filledOf, List.filter_cons_of_neg (by simp [blank])]
          · rw [unfit_iff, not_and] at unfit
            obtain ⟨point, found⟩ :=
              Option.ne_none_iff_exists'.mp (unfit (by simpa using blank))
            refine ⟨point :: walk, ?_⟩
            rw [WrittenOn, filledOf, List.filter_cons_of_pos (by simp [blank])]
            exact .cons ((point?_eq_some_iff line point).mp found) written

end Lines

/-- A text is refused for its first line that has text but does not begin with two numbers; else
it stands for the points on its lines. Fewer than `2 ^ 32` points are a walk that numbers cells
just if they are different, within the width and at positions below their number, and then the
cells have their keys in the order of the points. The table of keys itself is never refused. -/
theorem keys_follow_walk (text : String) (width : UInt32) :
    ((∃ index, FirstUnfit (linesOf text) index) ∨ ∃ points, WrittenOn (linesOf text) points) ∧
    (∀ index, FirstUnfit (linesOf text) index → Permutation.ofWalkText text width
      = .error (WalkFault.unreadableLine (index + 1)).fault) ∧
    (∀ points, WrittenOn (linesOf text) points → Permutation.ofWalkText text width
      = (permutation points width).mapError WalkFault.fault) ∧
    ∀ walk : Walk, walk.length < UInt32.size →
      ((∃ permutation, walk.permutation width = .ok permutation) ↔
        walk.Nodup ∧
          ∀ point ∈ walk, point.x < width ∧ point.position width < walk.length) ∧
      (∀ permutation, walk.permutation width = .ok permutation →
        permutation.size = walk.length ∧ ∀ (step : Nat) point, walk[step]? = some point →
          permutation.keyOf? (UInt32.ofNat (point.position width)) = some (UInt32.ofNat step) ∧
          (permutation.positionOf? (UInt32.ofNat step)).map UInt32.toNat
            = some (point.position width)) ∧
      ∀ fault, walk.permutation width ≠ .error (.table fault) := by
  refine ⟨unfit_or_written _, ?_, ?_, fun walk short => ⟨exists_permutation_iff short,
    fun _ => keys_of_permutation short, permutation_ne_table short⟩⟩
  · intro index first
    rw [Permutation.ofWalkText, read_eq, first.readFrom, Nat.add_comm]
    rfl
  · intro points written
    rw [Permutation.ofWalkText, read_eq, written.readFrom]
    rfl

theorem keys_of_two_by_two :
    ([⟨0, 0⟩, ⟨0, 1⟩, ⟨1, 1⟩, ⟨1, 0⟩] : Walk).length < UInt32.size ∧
      (∃ permutation, Permutation.ofWalkText "0 0\r\n\n +0\t1 up\n1 1\r\n1 00" 2
          = .ok permutation ∧
        permutation.keyOf? 2 = some 1 ∧ (permutation.positionOf? 3).map UInt32.toNat = some 1) ∧
      Permutation.ofWalkText "0 0\n \r\n0,1\nx" 2
        = .error (WalkFault.unreadableLine 3).fault := by
  have short : ([⟨0, 0⟩, ⟨0, 1⟩, ⟨1, 1⟩, ⟨1, 0⟩] : Walk).length < UInt32.size := by decide
  obtain ⟨_, _, whole, numbers⟩ :=
    keys_follow_walk "0 0\r\n\n +0\t1 up\n1 1\r\n1 00" 2
  obtain ⟨fits, keys, _⟩ := numbers _ short
  obtain ⟨_, refused, _⟩ := keys_follow_walk "0 0\n \r\n0,1\nx" 2
  obtain ⟨permutation, found⟩ := fits.mpr (by decide)
  refine ⟨short, ⟨permutation, ?_, ?_, ?_⟩, ?_⟩
  · rw [whole _ ?_, found]
    · rfl
    · unfold WrittenOn
      have lines : filledOf (linesOf "0 0\r\n\n +0\t1 up\n1 1\r\n1 00")
          = ["0 0\r".toList, " +0\t1 up".toList, "1 1\r".toList, "1 00".toList] := by decide
      rw [lines]
      exact .cons (by decide) (.cons (by decide) (.cons (by decide) (.cons (by decide) .nil)))
  · exact ((keys permutation found).2 1 ⟨0, 1⟩ rfl).1
  · exact ((keys permutation found).2 3 ⟨1, 0⟩ rfl).2
  · have lines : linesOf "0 0\n \r\n0,1\nx"
        = ["0 0".toList, " \r".toList, "0,1".toList, "x".toList] := by decide
    apply refused 2
    rw [lines]
    refine ⟨⟨_, rfl, by decide⟩, ?_⟩
    intro earlier before line held
    obtain rfl | rfl : earlier = 0 ∨ earlier = 1 := by omega
    · cases held
      decide
    · cases held
      decide

end Walk

end Cadastre
