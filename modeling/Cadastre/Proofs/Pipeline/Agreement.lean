import Cadastre.Proofs.Pipeline.Discovery
import Cadastre.Proofs.Pipeline.Recognition

/-!
One index, read in several places. A file's stem, the name in a manifest and the name of a recorded
item are each brought into normal form by themselves, and are then compared by number in one place
and by text in another. Written in digits, the index is the same everywhere, whatever zeros lead.
-/

namespace Cadastre

open Text (Decimal decimalValue)

theorem Source.stemIndex?_of_decimal {text : String} {index : GlobalIndex}
    (decimal : Decimal text) (value : decimalValue text = index.toNat) :
    stemIndex? text = some index :=
  (stemIndex?_eq_some_iff text index).mpr ⟨decimal.filled, decimal.digits, value⟩

namespace Item

/-- Digits are normalized to the numeral of the number they say, so that texts with the same number
and no others have the same normal form. Where that number is an index, the stem of a file, the
name of a manifest and the name of an item that have the text all tell that index. -/
theorem normalizeIndex_canonical {text : String} (decimal : Decimal text) :
    normalizeIndex text = toString (decimalValue text) ∧
    ((normalizeIndex text).toList.head? = some '0' → normalizeIndex text = "0") ∧
    (∀ other, Decimal other →
      (normalizeIndex text = normalizeIndex other ↔ decimalValue text = decimalValue other)) ∧
    normalizeIndex (normalizeIndex text) = normalizeIndex text ∧
    ((∃ index, Text.readUInt64? (normalizeIndex text) = some index) ↔
      decimalValue text < UInt64.size) ∧
    ∀ index : GlobalIndex, decimalValue text = index.toNat →
      Text.readUInt64? (normalizeIndex text) = some index ∧
      Source.stemIndex? text = some index ∧
      (∀ manifest : Manifest, Marks manifest.name text →
        manifest.globalIndex = .ok index ∧ manifest.indexKey? = some (toString index)) ∧
      ∀ item : Item, Marks item.name text → item.nameKey? = some (toString index) := by
  refine ⟨normalizeIndex_eq_toString decimal, normalizeIndex_of_zero text,
    fun other decimal' => normalizeIndex_eq_iff decimal decimal', ?_,
    exists_readUInt64?_normalizeIndex_iff decimal, ?_⟩
  · rw [normalizeIndex_eq_toString decimal, normalizeIndex_toString]
  · intro index value
    refine ⟨(readUInt64?_normalizeIndex_iff decimal index).mpr value,
      Source.stemIndex?_of_decimal decimal value, ?_, ?_⟩
    · intro manifest marks
      exact ⟨(manifest.globalIndex_eq_ok_iff index).mpr
        (numberInName?_of_marks decimal value marks), indexInName?_of_marks decimal value marks⟩
    · intro item marks
      exact indexInName?_of_marks decimal value marks

theorem padded_seven_told :
    Decimal "007" ∧ Decimal "7" ∧ decimalValue "007" = 7 ∧ Marks "Land # 007 #9" "007" ∧
      normalizeIndex "007" = normalizeIndex "7" ∧ Source.stemIndex? "007" = some 7 ∧
      ∃ manifest : Manifest, manifest.name = "Land # 007 #9" ∧ manifest.globalIndex = .ok 7 ∧
        manifest.indexKey? = some "7" ∧ (Item.pending manifest.name).nameKey? = some "7" := by
  have decimal : Decimal "007" := by decide
  have decimal' : Decimal "7" := by decide
  have marks : Marks "Land # 007 #9" "007" :=
    ⟨"Land ".toList, [' '], [' '], ['#', '9'], by decide, by decide, by decide, by decide,
      by simp⟩
  obtain ⟨-, -, same, -, -, told⟩ := normalizeIndex_canonical decimal
  obtain ⟨-, stem, manifests, items⟩ := told 7 (by decide)
  let manifest : Manifest := ⟨"Land # 007 #9", none, 0, "", ⟨[], [], []⟩, []⟩
  exact ⟨decimal, decimal', by decide, marks, (same "7" decimal').mpr (by decide), stem, manifest,
    rfl, (manifests manifest marks).1, (manifests manifest marks).2,
    items (Item.pending manifest.name) marks⟩

end Item

end Cadastre
