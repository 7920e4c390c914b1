import Cadastre.Item.Manifest
import Cadastre.Proofs.Json.FreeMembers

/-!
Manifests that are published and read again. The known members come back as they were, and the
others just if writing spoils none of their numbers.
-/

namespace Cadastre

open Json

theorem Creator.read?_reread (creator : Creator) : read? creator.toJson.reread = some creator := by
  obtain ⟨address, share, verified⟩ := creator
  have shared : Document.natural? UInt8.size (Json.nat share.toNat).reread = some share.toNat :=
    natural?_reread share.toNat_lt (by decide)
  simp only [read?, toJson, Form.ofDocument?_reread]
  cases verified
  all_goals
    simp [Form.ofMembers?, Form.known, Form.isRepeated, fields, Field.answersTo, Form.required,
      Form.orDefault, Form.get?, shared]
    rfl

theorem ManifestFile.read?_reread (file : ManifestFile) : read? file.toJson.reread = some file := by
  simp only [read?, toJson, Form.ofDocument?_reread]
  simp [Form.ofMembers?, Form.known, Form.isRepeated, fields, Field.answersTo, Form.required,
    Form.get?]
  rfl

namespace ManifestProperties

variable {depth : Nat} {properties : ManifestProperties}

theorem free_of_read? {document : Document} (read : read? depth document = some properties) :
    Form.Free fields depth properties.extra := by
  obtain ⟨members, _, read⟩ := Option.bind_eq_some_iff.mp read
  obtain ⟨form, _, read⟩ := Option.bind_eq_some_iff.mp read
  obtain ⟨creators, _, read⟩ := Option.bind_eq_some_iff.mp read
  obtain ⟨files, _, read⟩ := Option.bind_eq_some_iff.mp read
  obtain ⟨extra, kept, read⟩ := Option.bind_eq_some_iff.mp read
  cases read
  exact Form.free_of_extra? kept

theorem read?_reread_iff (free : Form.Free fields depth properties.extra) :
    read? depth properties.toJson.reread = some properties ↔
      (Json.object properties.extra).Lasting := by
  obtain ⟨creators, files, extra⟩ := properties
  have created : Document.list? Creator.read? (Json.array (creators.map Creator.toJson)).reread
      = some creators := by
    rw [reread_array, List.map_map]
    exact mapM_map_eq_some fun creator _ => creator.read?_reread
  have filed : Document.list? ManifestFile.read? (Json.array (files.map ManifestFile.toJson)).reread
      = some files := by
    rw [reread_array, List.map_map]
    exact mapM_map_eq_some fun file _ => file.read?_reread
  let known : List (String × Document) :=
    [("creators", (Json.array (creators.map Creator.toJson)).reread),
      ("files", (Json.array (files.map ManifestFile.toJson)).reread)]
  have taken : Form.unknown fields known = [] := rfl
  have form : Form.ofMembers? fields (known ++ extra.map fun member => (member.1, member.2.reread))
      = some ⟨false, known⟩ := Form.ofMembers?_append_free free
  have created' : Form.orDefault ⟨false, known⟩ "creators" (Document.list? Creator.read?) []
      = some creators := created
  have filed' : Form.orDefault ⟨false, known⟩ "files" (Document.list? ManifestFile.read?) []
      = some files := filed
  have members : (toJson ⟨creators, files, extra⟩).reread.members?
      = some (known ++ extra.map fun member => (member.1, member.2.reread)) := members?_reread _
  simp only [read?, members, Option.bind_eq_bind, Option.bind_some, form, created', filed']
  rw [← Form.extra?_append_free free taken]
  simp [Option.bind_eq_some_iff]

end ManifestProperties

namespace Manifest

def Lasting (manifest : Manifest) : Prop :=
  (Json.object manifest.properties.extra).Lasting ∧ (Json.object manifest.extra).Lasting

instance (manifest : Manifest) : Decidable manifest.Lasting :=
  inferInstanceAs (Decidable (_ ∧ _))

structure Sound (manifest : Manifest) : Prop where
  faultless : manifest.fault? = none
  inner : Form.Free ManifestProperties.fields (greatestDepth - 2) manifest.properties.extra
  outer : Form.Free fields (greatestDepth - 1) manifest.extra

variable {manifest : Manifest}

theorem ofDocument?_reread_iff
    (inner : Form.Free ManifestProperties.fields (greatestDepth - 2) manifest.properties.extra)
    (outer : Form.Free fields (greatestDepth - 1) manifest.extra) :
    ofDocument? manifest.toJson.reread = some manifest ↔ manifest.Lasting := by
  rw [Lasting, ← ManifestProperties.read?_reread_iff inner]
  obtain ⟨name, symbol, fee, image, properties, extra⟩ := manifest
  have fee' : Document.natural? UInt16.size (Json.nat fee.toNat).reread = some fee.toNat :=
    natural?_reread fee.toNat_lt (by decide)
  let known : List (String × Document) :=
    [("name", (Json.string name).reread)]
      ++ (symbol.map fun symbol => ("symbol", (Json.string symbol).reread)).toList
      ++ [("seller_fee_basis_points", (Json.nat fee.toNat).reread),
        ("image", (Json.string image).reread), ("properties", properties.toJson.reread)]
  have taken : Form.unknown fields known = [] := by cases symbol <;> rfl
  have form : Form.ofMembers? fields (known ++ extra.map fun member => (member.1, member.2.reread))
      = some ⟨false, known⟩ := by
    rw [Form.ofMembers?_append_free outer]
    cases symbol <;> rfl
  have named : Form.required ⟨false, known⟩ "name" Document.text? = some name := rfl
  have symbol' : Form.orDefault ⟨false, known⟩ "symbol" (Document.nullable? Document.text?) none
      = some symbol := by
    cases symbol <;> rfl
  have charged : Form.required ⟨false, known⟩ "seller_fee_basis_points"
      (Document.natural? UInt16.size) = some fee.toNat := by
    cases symbol <;> exact fee'
  have pictured : Form.orDefault ⟨false, known⟩ "image" Document.text? "" = some image := by
    cases symbol <;> rfl
  have described {default : ManifestProperties} : Form.orDefault ⟨false, known⟩ "properties"
      (ManifestProperties.read? (greatestDepth - 2)) default
        = ManifestProperties.read? (greatestDepth - 2) properties.toJson.reread := by
    cases symbol <;> rfl
  have members : (toJson ⟨name, symbol, fee, image, properties, extra⟩).reread.members?
      = some (known ++ extra.map fun member => (member.1, member.2.reread)) := by
    rw [toJson, members?_reread]
    cases symbol <;> rfl
  simp only [ofDocument?, members, Option.bind_eq_bind, Option.bind_some, form, named, symbol',
    charged, pictured, described]
  rw [← Form.extra?_append_free outer taken]
  simp [Option.bind_eq_some_iff]

theorem read_eq_ok_iff (bytes : Bytes) (manifest : Manifest) :
    read bytes = .ok manifest ↔
      (Document.read? bytes).bind ofDocument? = some manifest ∧ manifest.fault? = none := by
  unfold read
  cases (Document.read? bytes).bind ofDocument? with
  | none => simp
  | some found =>
      cases reason : found.fault? with
      | some fault =>
          simp only [reason, reduceCtorEq, Option.some.injEq, false_iff, not_and]
          rintro rfl
          simp [reason]
      | none =>
          simp only [reason, Except.ok.injEq, Option.some.injEq, iff_self_and]
          rintro rfl
          exact reason

theorem sound_of_ofDocument? {document : Document} (read : ofDocument? document = some manifest)
    (faultless : manifest.fault? = none) : manifest.Sound := by
  obtain ⟨members, _, read⟩ := Option.bind_eq_some_iff.mp read
  obtain ⟨form, _, read⟩ := Option.bind_eq_some_iff.mp read
  obtain ⟨name, _, read⟩ := Option.bind_eq_some_iff.mp read
  obtain ⟨symbol, _, read⟩ := Option.bind_eq_some_iff.mp read
  obtain ⟨fee, _, read⟩ := Option.bind_eq_some_iff.mp read
  obtain ⟨image, _, read⟩ := Option.bind_eq_some_iff.mp read
  obtain ⟨properties, described, read⟩ := Option.bind_eq_some_iff.mp read
  obtain ⟨extra, kept, read⟩ := Option.bind_eq_some_iff.mp read
  cases read
  refine ⟨faultless, ?_, Form.free_of_extra? kept⟩
  unfold Form.orDefault at described
  split at described
  · cases described
    exact ⟨List.Pairwise.nil, nofun, nofun⟩
  · exact ManifestProperties.free_of_read? described

theorem sound_of_read {bytes : Bytes} (read : Manifest.read bytes = .ok manifest) :
    manifest.Sound := by
  obtain ⟨found, faultless⟩ := (read_eq_ok_iff bytes manifest).mp read
  obtain ⟨document, _, found⟩ := Option.bind_eq_some_iff.mp found
  exact sound_of_ofDocument? found faultless

theorem Sound.withImage (sound : manifest.Sound) (link : Locator) :
    (manifest.withImage link).Sound :=
  ⟨sound.faultless, sound.inner, sound.outer⟩

theorem lasting_withImage (manifest : Manifest) (link : Locator) :
    (manifest.withImage link).Lasting ↔ manifest.Lasting := Iff.rfl

theorem Sound.read_bytes_iff (sound : manifest.Sound) :
    read manifest.bytes = .ok manifest ↔ manifest.Lasting := by
  rw [read_eq_ok_iff, bytes, text, Document.read?_write_eq_reread, Option.bind_some,
    ofDocument?_reread_iff sound.inner sound.outer, and_iff_left sound.faultless]

end Manifest

end Cadastre
