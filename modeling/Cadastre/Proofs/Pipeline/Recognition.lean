import Cadastre.Pipeline.Source
import Cadastre.Pipeline.Pending
import Cadastre.Proofs.Item.Index
import Cadastre.Proofs.Item.Record

/-!
Recognising what is stored already. A pair is filed under the number in its manifest's name, and
found again by the text in that name; the main statement says for which names that works out.
-/

namespace Cadastre

theorem Manifest.globalIndex_eq_ok_iff (manifest : Manifest) (index : GlobalIndex) :
    manifest.globalIndex = .ok index ↔ Item.numberInName? manifest.name = some index := by
  simp only [globalIndex, indexKey?, Item.numberInName?]
  cases Item.indexInName? manifest.name with
  | none => simp
  | some key =>
      cases read : Text.readUInt64? key <;> simp [read]

namespace Source

theorem readManifest_eq_ok_iff (pair : FilePair) (bytes : Bytes) (manifest : Manifest) :
    readManifest pair bytes = .ok manifest ↔
      Manifest.read bytes = .ok manifest ∧
        Item.numberInName? manifest.name = some pair.key := by
  rw [← Manifest.globalIndex_eq_ok_iff]
  simp only [readManifest, bind, Except.bind]
  cases Manifest.read bytes with
  | error fault => simp
  | ok found =>
      cases index : found.globalIndex with
      | error fault =>
          simp only [index, reduceCtorEq, false_iff, not_and, Except.ok.injEq]
          rintro rfl
          simp [index]
      | ok named =>
          by_cases same : named = pair.key
          · simp only [index, same, ↓reduceIte, Except.ok.injEq, iff_self_and]
            rintro rfl
            rw [index, same]
          · simp only [index, same, ↓reduceIte, reduceCtorEq, Except.ok.injEq, false_iff, not_and]
            rintro rfl
            simp [index, same]

end Source

namespace Record

theorem mem_pendingPairs_iff (record : Record) (candidates : List FilePair) (pair : FilePair) :
    pair ∈ record.pendingPairs candidates ↔
      pair ∈ candidates ∧ ¬ record.completedKeys.contains (toString pair.key) = true := by
  simp only [pendingPairs, List.mem_filter, Bool.not_eq_true', Bool.not_eq_true]

theorem contains_completedKeys_of_get? {record : Record} {key : LocalKey} {item : Item}
    {index : GlobalIndex} (held : record.get? key = some item) (stored : item.link ≠ "")
    (named : item.nameKey? = some (toString index)) :
    record.completedKeys.contains (toString index) = true :=
  (record.contains_completedKeys_iff _).mpr ⟨key, item, held, stored, named⟩

end Record

/-- After a pair is stored and recorded, no record that keeps its item has it pending, just if the
accepted manifest writes the index in digits. -/
theorem recognised_iff_writesDigits {pair : FilePair} {bytes : Bytes} {manifest : Manifest}
    (accepted : Source.readManifest pair bytes = .ok manifest) :
    (∀ (record after later : Record) (key : LocalKey) (link : Locator),
        record.recordUpload key link manifest.name = (.ok (), after) →
        later.get? key = after.get? key →
        later.completedKeys.contains (toString pair.key) = true ∧
          ∀ candidates, pair ∉ later.pendingPairs candidates) ↔
      Item.WritesDigits manifest.name := by
  have named := ((Source.readManifest_eq_ok_iff pair bytes manifest).mp accepted).2
  rw [← Item.indexInName?_eq_toString_iff named]
  constructor
  · intro recognised
    have recorded := (Record.recordUpload_eq_ok_iff {} _ 0 "link" manifest.name).mpr
      ⟨by simp [Item.pending], by simp, rfl⟩
    have found := (recognised _ _ _ 0 "link" recorded rfl).1
    obtain ⟨key, item, held, _, text⟩ := (Record.contains_completedKeys_iff _ _).mp found
    rcases Record.get?_put_cases held with ⟨_, rfl⟩ | earlier
    · exact text
    · simp at earlier
  · intro numeral record after later key link recorded kept
    obtain ⟨_, filled, rfl⟩ := (Record.recordUpload_eq_ok_iff _ _ _ _ _).mp recorded
    rw [Record.get?_put_self] at kept
    have complete := Record.contains_completedKeys_of_get? kept filled numeral
    refine ⟨complete, fun candidates pending => ?_⟩
    exact ((later.mem_pendingPairs_iff candidates pair).mp pending).2 complete

/-- A manifest whose name writes the index with a sign is accepted, and its pair stays pending. -/
theorem signed_index_unrecognised :
    ∃ (pair : FilePair) (bytes : Bytes) (manifest : Manifest),
      Source.readManifest pair bytes = .ok manifest ∧ manifest.name = "Land #+5" ∧
      ¬ ∀ (record after later : Record) (key : LocalKey) (link : Locator),
        record.recordUpload key link manifest.name = (.ok (), after) →
        later.get? key = after.get? key →
        later.completedKeys.contains (toString pair.key) = true ∧
          ∀ candidates, pair ∉ later.pendingPairs candidates := by
  let pair : FilePair := ⟨5, "5.png", "5.json", 50⟩
  let bytes := Text.utf8 "\x7b\"name\":\"Land #+5\",\"seller_fee_basis_points\":0\x7d"
  have read : (Source.readManifest pair bytes).toOption.map Manifest.name = some "Land #+5" := by
    decide +kernel
  cases accepted : Source.readManifest pair bytes with
  | error fault => simp [accepted, Except.toOption] at read
  | ok manifest =>
      have name : manifest.name = "Land #+5" := by simpa [accepted, Except.toOption] using read
      refine ⟨pair, bytes, manifest, accepted, name, ?_⟩
      rw [recognised_iff_writesDigits accepted, name]
      rintro ⟨digits, spelled, _, all⟩
      have sign : Item.indexSpelling? "Land #+5" = some ['+', '5'] := by decide +kernel
      rw [sign] at spelled
      cases spelled
      exact absurd all (by decide)

end Cadastre
