import Cadastre.Item.RecordFile
import Cadastre.Proofs.Json.Tables

/-!
A record that is written is read back as it was. Its items are put in the order of their keys'
texts, and found again under the numbers that these say.
-/

namespace Cadastre

open Json

theorem Item.sorted_toJson (item : Item) : item.toJson.sorted = item.toJson := by
  have ascending : Members.Ascending [("link", Json.string item.link),
      ("name", .string item.name), ("onChain", .bool item.onChain)] := by
    simp only [Members.Ascending, List.pairwise_cons, List.mem_cons, List.not_mem_nil, or_false,
      forall_eq_or_imp, forall_eq, List.Pairwise.nil, and_true, IsEmpty.forall_iff, implies_true]
    decide
  rw [toJson, Json.sorted, sortedMembers, sortedMembers, sortedMembers, sortedMembers]
  exact congrArg Json.object (Members.ofList_of_ascending ascending)

theorem Item.read?_toJson (item : Item) : read? (.ofJson item.toJson) = some item := by
  simp only [read?, toJson, Form.ofDocument?_ofJson]
  simp [Form.ofMembers?, Form.known, Form.isRepeated, fields, Field.answersTo, Form.orDefault,
    Form.required, Form.get?, Document.ofJson, Document.text?, Document.flag?]

theorem Program.sorted_toJson (program : Program) :
    program.toJson.sorted = .object [("registryLocator", .string program.registryLocator),
      ("uniqueId", .string program.uniqueId)] := by
  exact congrArg Json.object (Members.ofList_swapped (by decide) _ _)

theorem Program.read?_sorted_toJson (program : Program) :
    read? (.ofJson program.toJson.sorted) = some (some program) := by
  rw [sorted_toJson]
  have form := Form.ofDocument?_ofJson fields [("registryLocator", .string program.registryLocator),
      ("uniqueId", .string program.uniqueId)]
  rw [Document.ofJson] at form ⊢
  simp only [read?, readPartial?, form]
  simp [Form.ofMembers?, Form.known, Form.isRepeated, fields, Field.answersTo, Form.optional,
    Form.get?, Document.ofJson, Document.nullable?, Document.text?]

namespace Record

def itemMembers (record : Record) : Members :=
  record.items.toList.map fun (key, item) => (toString key, item.toJson)

theorem nodup_keys_itemMembers (record : Record) : record.itemMembers.keys.Nodup := by
  have keys : record.itemMembers.keys = record.items.keys.map toString := by
    rw [← Std.ExtTreeMap.map_fst_toList_eq_keys, itemMembers, Members.keys, List.map_map,
      List.map_map]
    rfl
  rw [keys]
  exact record.items.nodup_keys.map Text.toString_uint32_injective

theorem sorted_items (record : Record) :
    (Json.object record.itemMembers).sorted = .object (Members.ofList record.itemMembers) := by
  have each : ∀ entries : List (LocalKey × Item),
      sortedMembers (entries.map fun (key, item) => (toString key, item.toJson))
        = entries.map fun (key, item) => (toString key, item.toJson) := by
    intro entries
    induction entries with
    | nil => rfl
    | cons entry rest ih => rw [List.map_cons, sortedMembers, ih, Item.sorted_toJson]
  rw [Json.sorted, itemMembers, each]

theorem readItems?_sorted (record : Record) :
    readItems? (.ofJson (Json.object record.itemMembers).sorted) = some record.items := by
  obtain ⟨entries, ordered, perm⟩ : ∃ entries : List (LocalKey × Item),
      Members.ofList record.itemMembers
        = entries.map (fun entry => (toString entry.1, entry.2.toJson)) ∧
      entries.Perm record.items.toList :=
    exists_map_of_perm_map (Members.ofList_perm record.nodup_keys_itemMembers)
  have numbered := Document.numbered?_numerals (fun item : Item => .ofJson item.toJson) entries
  have read : (entries.map fun entry => (entry.1.toNat, Document.ofJson entry.2.toJson)).mapM
      (fun member => (Item.read? member.2).map fun item => (UInt32.ofNat member.1, item))
        = some entries := by
    refine mapM_map_eq_some fun entry _ => ?_
    simp [Item.read?_toJson]
  rw [sorted_items, ordered, Document.ofJson, ofMembers_eq_map, List.map_map]
  change (Document.numbered? UInt32.size (.object (entries.map fun entry =>
    (.plain (toString entry.1), .ofJson entry.2.toJson)))).bind _ = _
  rw [numbered, Option.bind_some]
  change ((entries.map fun entry => (entry.1.toNat, Document.ofJson entry.2.toJson)).mapM
    fun member => (Item.read? member.2).map fun item => (UInt32.ofNat member.1, item)).bind _ = _
  rw [read, Option.bind_some]
  exact congrArg some (foldl_insert_of_perm record.items perm)

theorem ofDocument?_sorted_toJson (record : Record) :
    ofDocument? (.ofJson record.toJson.sorted) = some record := by
  obtain ⟨program, items⟩ := record
  have read := readItems?_sorted ⟨program, items⟩
  generalize sorted : (Json.object (itemMembers ⟨program, items⟩)).sorted = value at read
  have written : (toJson ⟨program, items⟩).sorted = .object (Members.ofList
      (sortedMembers (program.map fun program => ("program", program.toJson)).toList
        ++ [("items", value)])) := by
    rw [← sorted]
    cases program <;> rfl
  rw [written]
  cases program with
  | none =>
      simp only [ofDocument?, Form.ofDocument?_ofJson]
      simp [sortedMembers, Members.ofList, Members.put, Form.ofMembers?, Form.known,
        Form.isRepeated, fields, Field.answersTo, Form.orDefault, Form.get?, read]
  | some program =>
      have below : "items" < "program" := by decide
      have swapped := Members.ofList_swapped below
        program.toJson.sorted value
      simp only [ofDocument?, Form.ofDocument?_ofJson, Option.map_some, Option.toList_some,
        sortedMembers, List.cons_append, List.nil_append, swapped]
      simp [Form.ofMembers?, Form.known,
        Form.isRepeated, fields, Field.answersTo, Form.orDefault, Form.get?, read,
        Program.read?_sorted_toJson]

theorem fits_toJson (record : Record) : record.toJson.Fits 3 := by
  have items : FitsMembers 1 record.itemMembers := by
    rw [fitsMembers_iff]
    intro member found
    obtain ⟨entry, _, rfl⟩ := List.mem_map.mp found
    simp [Item.toJson, Fits, FitsMembers]
  obtain ⟨program, _⟩ := record
  cases program with
  | none => exact ⟨items, trivial⟩
  | some program => exact ⟨⟨trivial, trivial, trivial⟩, items, trivial⟩

end Record

end Cadastre
