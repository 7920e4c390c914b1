import Cadastre.Item.Record

/-!
Records by their entries: what recording an upload does to them, and which items count as
complete.
-/

namespace Cadastre

theorem Item.state_eq_pending_iff (item : Item) : item.state = .pending ↔ item.link = "" := by
  by_cases empty : item.link = ""
  · simp [state, empty]
  · have filled : item.link.isEmpty = false := by simpa using empty
    cases flag : item.onChain <;> simp [state, empty, filled, flag]

theorem Item.state_eq_onChain_iff (item : Item) :
    item.state = .onChain ↔ item.link ≠ "" ∧ item.onChain = true := by
  by_cases empty : item.link = ""
  · simp [state, empty]
  · have filled : item.link.isEmpty = false := by simpa using empty
    cases flag : item.onChain <;> simp [state, empty, filled, flag]

theorem Item.state_eq_uploaded_iff (item : Item) :
    item.state = .uploaded ↔ item.link ≠ "" ∧ item.onChain = false := by
  by_cases empty : item.link = ""
  · simp [state, empty]
  · have filled : item.link.isEmpty = false := by simpa using empty
    cases flag : item.onChain <;> simp [state, empty, filled, flag]

theorem Item.empty_or_onChain {item : Item} (other : item.state ≠ .uploaded) :
    item.link = "" ∨ item.onChain = true := by
  by_cases empty : item.link = ""
  · exact Or.inl empty
  · cases flag : item.onChain with
    | true => exact Or.inr rfl
    | false => exact absurd ((item.state_eq_uploaded_iff).mpr ⟨empty, flag⟩) other

namespace Record

theorem get?_put (record : Record) (key other : LocalKey) (item : Item) :
    (record.put key item).get? other = if key = other then some item else record.get? other := by
  simp [put, get?, Std.ExtTreeMap.getElem?_insert]

@[simp] theorem get?_put_self (record : Record) (key : LocalKey) (item : Item) :
    (record.put key item).get? key = some item := by
  simp [get?_put]

theorem get?_put_of_ne (record : Record) {key other : LocalKey} (item : Item)
    (different : key ≠ other) : (record.put key item).get? other = record.get? other := by
  simp [get?_put, different]

theorem get?_put_of_vacant {record : Record} {key other : LocalKey} {item found : Item}
    (vacant : record.get? key = none) (held : record.get? other = some found) :
    (record.put key item).get? other = some found := by
  rw [get?_put_of_ne, held]
  rintro rfl
  rw [vacant] at held
  cases held

theorem get?_put_cases {record : Record} {key other : LocalKey} {item found : Item}
    (held : (record.put key item).get? other = some found) :
    (other = key ∧ found = item) ∨ record.get? other = some found := by
  rw [get?_put] at held
  split at held
  · rename_i same
    cases held
    exact Or.inl ⟨same.symm, rfl⟩
  · exact Or.inr held

@[simp] theorem get?_empty (key : LocalKey) : ({} : Record).get? key = none := by
  simp [get?]

theorem mem_toList_iff (record : Record) (key : LocalKey) (item : Item) :
    (key, item) ∈ record.items.toList ↔ record.get? key = some item :=
  Std.ExtTreeMap.mem_toList_iff_getElem?_eq_some

theorem recordUpload_eq_ok_iff (record after : Record) (key : LocalKey) (link : Locator)
    (name : String) :
    record.recordUpload key link name = (.ok (), after) ↔
      ((record.get? key).getD (.pending name)).link = "" ∧ link ≠ "" ∧
        after = record.put key
          ⟨link, name, ((record.get? key).getD (.pending name)).onChain⟩ := by
  unfold recordUpload
  generalize (record.get? key).getD (.pending name) = item
  by_cases pending : item.state = .pending
  · have empty := (item.state_eq_pending_iff).mp pending
    by_cases missing : link = ""
    · simp [Item.markUploaded, Item.refuse, missing]
    · simp only [Item.markUploaded, pending, missing, String.isEmpty_iff, ne_eq,
        not_true_eq_false, or_self, ↓reduceIte, Prod.mk.injEq, true_and, empty,
        not_false_eq_true]
      exact eq_comm
  · have filled := mt (item.state_eq_pending_iff).mpr pending
    simp [Item.markUploaded, Item.refuse, pending, filled]

theorem contains_completedKeys_iff (record : Record) (text : String) :
    record.completedKeys.contains text = true ↔
      ∃ key item, record.get? key = some item ∧ item.link ≠ "" ∧ item.nameKey? = some text := by
  simp only [completedKeys, Std.ExtTreeSet.contains_ofList, List.contains_iff_mem,
    List.mem_filterMap, List.mem_filter, Prod.exists, mem_toList_iff, decide_eq_true_eq, ne_eq,
    Item.state_eq_pending_iff]
  constructor
  · rintro ⟨key, item, ⟨held, filled⟩, named⟩
    exact ⟨key, item, held, filled, named⟩
  · rintro ⟨key, item, held, filled, named⟩
    exact ⟨key, item, ⟨held, filled⟩, named⟩

end Record

end Cadastre
