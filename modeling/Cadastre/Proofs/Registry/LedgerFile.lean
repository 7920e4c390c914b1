import Cadastre.Registry.LedgerFile
import Cadastre.Proofs.Json.Tables

/-!
A ledger that is written is read back as it was.
-/

namespace Cadastre

open Json

theorem RegistryEntry.read?_toJson (entry : RegistryEntry) :
    read? entry.toJson.spelled = some entry := by
  simp only [read?, toJson, Form.ofDocument?_spelled]
  simp [Form.ofMembers?, Form.known, Form.isRepeated, fields, Field.answersTo, Form.required,
    Form.get?]

theorem Creator.read?_toJson (creator : Creator) : read? creator.toJson.spelled = some creator := by
  obtain ⟨address, share, verified⟩ := creator
  have number := Document.natural?_spelled share.toNat_lt
  simp only [read?, toJson, Form.ofDocument?_spelled]
  cases verified with
  | none =>
      simp [Form.ofMembers?, Form.known, Form.isRepeated, fields, Field.answersTo, Form.required,
        Form.orDefault, Form.get?, number]
  | some verified =>
      have flag : Document.nullable? Document.flag? (Json.bool verified).spelled
          = some (some verified) := rfl
      simp [Form.ofMembers?, Form.known, Form.isRepeated, fields, Field.answersTo, Form.required,
        Form.orDefault, Form.get?, number, flag]

-- The fields' documents are variables here, so that no proof looks into a number below its limit.
theorem RegistryDefaults.read?_of_fields {document symbol fee creators isMutable retain supply :
      Document} {defaults : RegistryDefaults}
    (form : Form.ofDocument? fields document = Form.ofMembers? fields
      [("symbol", symbol), ("seller_fee_basis_points", fee), ("creators", creators),
        ("is_mutable", isMutable), ("retain_authority", retain), ("max_supply", supply)])
    (readSymbol : symbol.text? = some defaults.symbol)
    (readFee : fee.natural? UInt16.size = some defaults.sellerFee.toNat)
    (readCreators : creators.list? Creator.read? = some defaults.creators)
    (readMutable : isMutable.flag? = some defaults.isMutable)
    (readRetain : retain.flag? = some defaults.retainAuthority)
    (readSupply : supply.natural? UInt64.size = some defaults.maxSupply.toNat) :
    read? document = some defaults := by
  simp only [read?, form]
  simp [Form.ofMembers?, Form.known, Form.isRepeated, fields, Field.answersTo, Form.required,
    Form.get?, readSymbol, readFee, readCreators, readMutable, readRetain, readSupply]

theorem RegistryDefaults.read?_toJson (defaults : RegistryDefaults) :
    read? defaults.toJson.spelled = some defaults := by
  have creators : Document.list? Creator.read?
      (Json.array (defaults.creators.map Creator.toJson)).spelled = some defaults.creators := by
    rw [spelled, spelledItems_eq_map, List.map_map, Document.list?]
    exact mapM_map_eq_some fun creator _ => creator.read?_toJson
  exact read?_of_fields (Form.ofDocument?_spelled fields _) (Document.text?_spelled _)
    (Document.natural?_spelled defaults.sellerFee.toNat_lt) creators (Document.flag?_spelled _)
    (Document.flag?_spelled _) (Document.natural?_spelled defaults.maxSupply.toNat_lt)

theorem RegistryDefaults.fits_toJson (defaults : RegistryDefaults) : defaults.toJson.Fits 3 := by
  have creators : FitsItems 1 (defaults.creators.map Creator.toJson) := by
    rw [fitsItems_iff]
    intro value found
    obtain ⟨creator, _, rfl⟩ := List.mem_map.mp found
    obtain ⟨address, share, verified⟩ := creator
    have small : Number.Exact (.integer share.toNat) := by
      have := share.toNat_lt
      exact Number.exact_integer (by omega) (by omega)
    cases verified with
    | none => exact ⟨trivial, small, trivial⟩
    | some verified => exact ⟨trivial, small, trivial, trivial⟩
  have fee : Number.Exact (.integer defaults.sellerFee.toNat) := by
    have := defaults.sellerFee.toNat_lt
    exact Number.exact_integer (by omega) (by omega)
  have supply : Number.Exact (.integer defaults.maxSupply.toNat) := by
    have := defaults.maxSupply.toNat_lt
    exact Number.exact_integer (by omega) (by omega)
  exact ⟨trivial, fee, creators, trivial, trivial, supply, trivial⟩

namespace Registry

theorem readLines?_toJson (lines : Std.ExtTreeMap UInt32 RegistryEntry) :
    readLines? (Json.object (lines.toList.map fun (line, entry) =>
      (toString line, entry.toJson))).spelled = some lines := by
  have numbered := Document.numbered?_numerals (fun entry : RegistryEntry => entry.toJson.spelled)
    lines.toList
  have read : (lines.toList.map fun line => (line.1.toNat, line.2.toJson.spelled)).mapM
      (fun member => (RegistryEntry.read? member.2).map fun entry =>
        (UInt32.ofNat member.1, entry)) = some lines.toList := by
    refine mapM_map_eq_some fun line _ => ?_
    simp [RegistryEntry.read?_toJson]
  have spelling : spelledMembers (lines.toList.map fun (line, entry) =>
      (toString line, entry.toJson)) = lines.toList.map fun line =>
        (.plain (toString line.1), line.2.toJson.spelled) := by
    rw [spelledMembers_eq_map, List.map_map]
    exact List.map_congr_left fun line _ => Prod.ext (Document.spelled_numeral line.1) rfl
  rw [spelled, spelling]
  change (Document.numbered? UInt32.size (.object (lines.toList.map fun line =>
    (.plain (toString line.1), line.2.toJson.spelled)))).bind _ = _
  rw [numbered, Option.bind_some]
  change ((lines.toList.map fun line => (line.1.toNat, line.2.toJson.spelled)).mapM
    fun member => (RegistryEntry.read? member.2).map fun entry =>
      (UInt32.ofNat member.1, entry)).bind _ = _
  rw [read, Option.bind_some]
  exact congrArg some (foldl_insert_of_perm lines (List.Perm.refl _))

theorem read?_of_fields {document uniqueId capacity defaults createdAt lines : Document}
    {registry : Registry}
    (form : Form.ofDocument? fields document = Form.ofMembers? fields
      [("uniqueId", uniqueId), ("capacity", capacity), ("defaults", defaults),
        ("createdAt", createdAt), ("lines", lines)])
    (readId : uniqueId.text? = some registry.uniqueId)
    (readCapacity : capacity.natural? UInt32.size = some registry.capacity.toNat)
    (readDefaults : RegistryDefaults.read? defaults = some registry.defaults)
    (readCreated : createdAt.text? = some registry.createdAt)
    (readLines : readLines? lines = some registry.lines) :
    read? document = some registry := by
  simp only [read?, form]
  simp [Form.ofMembers?, Form.known, Form.isRepeated, fields, Field.answersTo, Form.required,
    Form.orDefault, Form.get?, readId, readCapacity, readDefaults, readCreated, readLines]

theorem read?_toJson (registry : Registry) : read? registry.toJson.spelled = some registry :=
  read?_of_fields (Form.ofDocument?_spelled fields _) (Document.text?_spelled _)
    (Document.natural?_spelled registry.capacity.toNat_lt) registry.defaults.read?_toJson
    (Document.text?_spelled _) (readLines?_toJson registry.lines)

theorem fits_toJson (registry : Registry) : registry.toJson.Fits 4 := by
  have capacity : Number.Exact (.integer registry.capacity.toNat) := by
    have := registry.capacity.toNat_lt
    exact Number.exact_integer (by omega) (by omega)
  have lines : FitsMembers 2 (registry.lines.toList.map fun (line, entry) =>
      (toString line, entry.toJson)) := by
    rw [fitsMembers_iff]
    intro member found
    obtain ⟨line, _, rfl⟩ := List.mem_map.mp found
    exact ⟨trivial, trivial, trivial⟩
  exact ⟨trivial, capacity, registry.defaults.fits_toJson, trivial, lines, trivial⟩

end Registry

namespace Ledger

theorem readRegistries?_toJson (registries : Std.ExtTreeMap String Registry) :
    readRegistries? (Json.object (registries.toList.map fun (locator, registry) =>
      (locator, registry.toJson))).spelled = some registries := by
  have read : (registries.toList.map fun entry => (entry.1, entry.2.toJson.spelled)).mapM
      (fun member => (Registry.read? member.2).map fun registry => (member.1, registry))
        = some registries.toList := by
    refine mapM_map_eq_some fun entry _ => ?_
    simp [Registry.read?_toJson]
  simp only [readRegistries?, Document.members?_spelled, List.map_map]
  change ((registries.toList.map fun entry => (entry.1, entry.2.toJson.spelled)).mapM
    fun member => (Registry.read? member.2).map fun registry => (member.1, registry)).bind _ = _
  rw [read, Option.bind_some]
  exact congrArg some (foldl_insert_of_perm registries (List.Perm.refl _))

theorem ofDocument?_toJson (ledger : Ledger) :
    ofDocument? ledger.toJson.spelled = some ledger := by
  have registries := readRegistries?_toJson ledger.registries
  generalize written : Json.object _ = value at registries
  simp only [ofDocument?, toJson, written, Form.ofDocument?_spelled]
  simp [Form.ofMembers?, Form.known, Form.isRepeated, fields, Field.answersTo, Form.orDefault,
    Form.get?, registries]

theorem fits_toJson (ledger : Ledger) : ledger.toJson.Fits 6 := by
  have registries : FitsMembers 4 (ledger.registries.toList.map fun (locator, registry) =>
      (locator, registry.toJson)) := by
    rw [fitsMembers_iff]
    intro member found
    obtain ⟨entry, _, rfl⟩ := List.mem_map.mp found
    exact entry.2.fits_toJson
  exact ⟨registries, trivial⟩

theorem ofFile_bytes (ledger : Ledger) : ofFile (some ledger.bytes) = .ok ledger := by
  simp only [ofFile, bytes, Document.read?_writePretty ledger.fits_toJson, Option.bind_some,
    ofDocument?_toJson]

end Ledger

end Cadastre
