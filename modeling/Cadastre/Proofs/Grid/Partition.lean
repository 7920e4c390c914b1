import Cadastre.Grid.Partition
import Cadastre.Proofs.Text.Parts
import Cadastre.Proofs.Text.Trim

/-!
Tags of partitions: which texts are read as one, and that a tag is read back as the partition that
it was made for, so that different partitions have different tags.
-/

namespace Cadastre

namespace Partition

def inner (partition : Partition) : List Char :=
  Nat.toDigits 10 partition.row.toNat ++ ',' :: Nat.toDigits 10 partition.col.toNat

theorem toList_tag (partition : Partition) :
    partition.tag.toList = '[' :: (partition.inner ++ [']']) := by
  have text : partition.tag = "[" ++ toString partition.row ++ "," ++ toString partition.col
      ++ "]" := rfl
  rw [text, inner, ← Text.toList_toString_uint32, ← Text.toList_toString_uint32]
  simp

/-- Digits that say the number, perhaps with a plus in front, between blanks. -/
def Writes (cs : List Char) (n : UInt32) : Prop :=
  ∃ before sign digits after, cs = before ++ (sign ++ digits) ++ after ∧
    before.all Text.isBlank = true ∧ after.all Text.isBlank = true ∧
    (sign = [] ∨ sign = ['+']) ∧ digits ≠ [] ∧ digits.all Char.isDigit = true ∧
    Nat.ofDigitChars 10 digits 0 = n.toNat

/-- Two numbers that are written so, between brackets and blanks. -/
def Spells (text : String) (partition : Partition) : Prop :=
  ∃ before row col after, text.toList = before ++ '[' :: (row ++ ',' :: col ++ [']']) ++ after ∧
    before.all Text.isBlank = true ∧ after.all Text.isBlank = true ∧
    Writes row partition.row ∧ Writes col partition.col

theorem number?_eq_some_iff (cs : List Char) (n : UInt32) :
    number? cs = some n ↔ Writes cs n := by
  have read : number? cs = some n ↔
      Text.readBelow UInt32.size (Text.trimChars cs) = some n.toNat := by
    rw [number?, Option.map_eq_some_iff]
    constructor
    · rintro ⟨value, found, rfl⟩
      have below := ((Text.readBelow_eq_some_iff _ _ _).mp found).2.2.2
      rw [found, UInt32.toNat_ofNat_of_lt' below]
    · intro found
      exact ⟨_, found, UInt32.ofNat_toNat⟩
  rw [read, Text.readBelow_eq_some_iff]
  constructor
  · rintro ⟨filled, all, value, -⟩
    obtain ⟨before, after, parts, blank, blank'⟩ := Text.eq_append_trimChars cs
    obtain ⟨sign, signed, whole⟩ := Text.eq_append_unsigned (Text.trimChars cs)
    refine ⟨before, sign, _, after, ?_, blank, blank', signed, filled, all, value⟩
    rw [← whole, ← parts]
  · rintro ⟨before, sign, digits, after, rfl, blank, blank', signed, filled, all, value⟩
    rw [Text.unsigned_trimChars blank blank' signed filled all]
    exact ⟨filled, all, value, n.toNat_lt⟩

theorem comma_not_mem_of_writes {cs : List Char} {n : UInt32} (writes : Writes cs n) :
    ',' ∉ cs := by
  obtain ⟨before, sign, digits, after, rfl, blank, blank', signed, -, all, -⟩ := writes
  simp only [List.mem_append]
  rintro ((member | member | member) | member)
  · exact absurd (List.all_eq_true.mp blank _ member) (by decide)
  · rcases signed with rfl | rfl
    · cases member
    · exact absurd member (by decide)
  · exact absurd (List.all_eq_true.mp all _ member) (by decide)
  · exact absurd (List.all_eq_true.mp blank' _ member) (by decide)

theorem atComma?_eq_some_iff (cs row col : List Char) :
    atComma? cs = some (row, col) ↔ cs = row ++ ',' :: col ∧ ',' ∉ row := by
  constructor
  · intro found
    rw [atComma?] at found
    split at found
    · cases found
    · rename_i behind
      cases found
      exact Text.parts_of_dropWhile_ne behind
  · rintro ⟨rfl, plain⟩
    obtain ⟨start, behind⟩ := Text.takeWhile_ne_of_plain plain col
    rw [atComma?, behind, start]

theorem inBrackets?_eq_some_iff (cs inner : List Char) :
    inBrackets? cs = some inner ↔ cs = '[' :: (inner ++ [']']) := by
  constructor
  · intro found
    unfold inBrackets? at found
    split at found
    · rename_i rest
      split at found
      · rename_i last
        cases found
        obtain ⟨body, rfl⟩ := List.getLast?_eq_some_iff.mp last
        rw [List.dropLast_concat]
      · cases found
    · cases found
  · rintro rfl
    rw [inBrackets?, if_pos List.getLast?_concat, List.dropLast_concat]

theorem ofTag?_eq_some_iff (text : String) (partition : Partition) :
    ofTag? text = some partition ↔ Spells text partition := by
  constructor
  · intro found
    unfold ofTag? at found
    split at found
    · cases found
    · rename_i row col parts
      split at found
      · rename_i above beside named named'
        cases found
        obtain ⟨inner, bracketed, split⟩ := Option.bind_eq_some_iff.mp parts
        obtain ⟨before, after, whole, blank, blank'⟩ := Text.eq_append_trimChars text.toList
        rw [(inBrackets?_eq_some_iff _ _).mp bracketed,
          ((atComma?_eq_some_iff _ _ _).mp split).1] at whole
        exact ⟨before, row, col, after, whole, blank, blank',
          (number?_eq_some_iff _ _).mp named, (number?_eq_some_iff _ _).mp named'⟩
      · cases found
  · rintro ⟨before, row, col, after, parts, blank, blank', named, named'⟩
    have bracketed : inBrackets? (Text.trimChars text.toList) = some (row ++ ',' :: col) := by
      rw [parts, Text.trimChars_padded blank blank' rfl
        (by rw [← List.cons_append, List.getLast?_concat]) (by decide) (by decide),
        inBrackets?_eq_some_iff]
    have split : atComma? (row ++ ',' :: col) = some (row, col) :=
      (atComma?_eq_some_iff _ _ _).mpr ⟨rfl, comma_not_mem_of_writes named⟩
    rw [ofTag?, bracketed, Option.bind_some, split]
    simp only [(number?_eq_some_iff _ _).mpr named, (number?_eq_some_iff _ _).mpr named']

instance (text : String) (partition : Partition) : Decidable (Spells text partition) :=
  decidable_of_iff _ (ofTag?_eq_some_iff text partition)

example : Spells " [ +1,\t002]" ⟨1, 2⟩ := by decide

theorem writes_toDigits (n : UInt32) : Writes (Nat.toDigits 10 n.toNat) n :=
  ⟨[], [], Nat.toDigits 10 n.toNat, [], by simp, rfl, rfl, Or.inl rfl, Nat.toDigits_ne_nil,
    Text.all_isDigit_toDigits _, Nat.ofDigitChars_ten_toDigits⟩

theorem spells_tag (partition : Partition) : Spells partition.tag partition := by
  refine ⟨[], Nat.toDigits 10 partition.row.toNat, Nat.toDigits 10 partition.col.toNat, [], ?_,
    rfl, rfl, writes_toDigits partition.row, writes_toDigits partition.col⟩
  rw [toList_tag, inner, List.append_nil, List.nil_append]

theorem ofTag?_tag (partition : Partition) : ofTag? partition.tag = some partition :=
  (ofTag?_eq_some_iff _ _).mpr partition.spells_tag

theorem tag_injective : Function.Injective tag := by
  intro first second same
  have read := congrArg ofTag? same
  rw [ofTag?_tag, ofTag?_tag] at read
  exact Option.some.inj read

theorem ofTag_eq_ok_iff (text : String) (partition : Partition) :
    ofTag text = .ok partition ↔ Spells text partition := by
  rw [← ofTag?_eq_some_iff, ofTag]
  cases ofTag? text with
  | none => simp
  | some found => simp

theorem ofTag_eq_error_iff (text : String) (fault : Fault) :
    ofTag text = .error fault ↔
      (∀ partition, ¬ Spells text partition) ∧ fault = .invalidPartitionTag text := by
  simp only [← ofTag?_eq_some_iff, ofTag]
  cases ofTag? text with
  | none => simp [eq_comm]
  | some found => simp

/-- A text is read as the partition that it spells and refused, with the text in the fault, if it
spells none; what is written as a tag is read back, and no other partition has that tag. -/
theorem ofTag_exact :
    (∀ text partition, ofTag text = .ok partition ↔ Spells text partition) ∧
    (∀ text fault, ofTag text = .error fault ↔
      (∀ partition, ¬ Spells text partition) ∧ fault = .invalidPartitionTag text) ∧
    (∀ partition : Partition, ofTag partition.tag = .ok partition) ∧
    Function.Injective tag := by
  refine ⟨ofTag_eq_ok_iff, ofTag_eq_error_iff, ?_, tag_injective⟩
  intro partition
  exact (ofTag_eq_ok_iff _ _).mpr partition.spells_tag

def Before (one other : Partition) : Prop :=
  one.row < other.row ∨ one.row = other.row ∧ one.col < other.col

theorem precedes_iff (one other : Partition) : one.precedes other = true ↔
    one.row.toNat < other.row.toNat ∨
      one.row.toNat = other.row.toNat ∧ one.col.toNat ≤ other.col.toNat := by
  simp [precedes, UInt32.lt_iff_toNat_lt, UInt32.le_iff_toNat_le, ← UInt32.toNat_inj]

theorem precedes_trans (one other third : Partition) (first : one.precedes other = true)
    (second : other.precedes third = true) : one.precedes third = true := by
  rw [precedes_iff] at first second ⊢
  omega

theorem precedes_total (one other : Partition) :
    (one.precedes other || other.precedes one) = true := by
  rw [Bool.or_eq_true, precedes_iff, precedes_iff]
  omega

theorem before_iff (one other : Partition) :
    one.Before other ↔ one.precedes other = true ∧ one ≠ other := by
  rw [precedes_iff, Before, UInt32.lt_iff_toNat_lt, UInt32.lt_iff_toNat_lt, ← UInt32.toNat_inj,
    Ne, Partition.mk.injEq, ← UInt32.toNat_inj, ← UInt32.toNat_inj]
  omega

end Partition

end Cadastre
