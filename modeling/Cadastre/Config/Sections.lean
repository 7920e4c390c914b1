import Cadastre.Config.Document
import Cadastre.Config.Setting

/-!
The sections among settings. A section is a table, or a list of its fields by position. Main
definition: `Config.ofSettings?`.
-/

namespace Cadastre

open Json

/-- The section that settings have under a name, or what stands for it if they have none. -/
def Setting.Members.sectionOr {α : Type} (settings : Setting.Members) (name : String)
    (read : Setting → Option α) (unset : α) : Option α :=
  match settings.get? name with
  | none => some unset
  | some setting => read setting

namespace StorageConfig

def kinds : List String := ["bundle", "ipfs", "s3", "filesystem"]

/-- A kind is given by its name, or by its number where that is unsigned. -/
def kindOf? : Setting → Option String
  | .text name => some name
  | .unsigned position => kinds[position]?
  | _ => none

/-- What a section holds besides the kind. Here a single character is no text. -/
def fieldsDocument (setting : Setting) : Document :=
  setting.documentWith fun _ => .string none

def ofSetting? : Setting → Option StorageConfig
  | .list (kind :: rest) => do
    ofKind? (← kindOf? kind) (fieldsDocument (.list rest))
  | .table members => do
    let kind ← Setting.Members.get? members "type"
    ofKind? (← kindOf? kind)
      (fieldsDocument (.table (members.filter fun member => member.1 ≠ "type")))
  | _ => none

end StorageConfig

def CollectionConfig.ofSetting? (setting : Setting) : Option CollectionConfig :=
  let setting := setting.changeFields fields fun name value =>
    if name = "creators" then value.changeItems (Setting.bounded Creator.fields) else value
  read? setting.document

namespace Config

/-- Reads a section, which may be a list with more items than there are fields. -/
def readSection? {α : Type} (fields : List Field) (read : Document → Option α)
    (setting : Setting) : Option α :=
  read (setting.bounded fields).document

def ofSettings? (settings : Setting.Members) : Option Config := do
  let cache ← settings.sectionOr "cache" (readSection? CacheConfig.fields CacheConfig.read?) {}
  let grid ← settings.sectionOr "grid" (readSection? GridConfig.fields GridConfig.read?) {}
  let upload ← settings.sectionOr "upload" (readSection? UploadConfig.fields UploadConfig.read?) {}
  let storage ← settings.sectionOr "storage" StorageConfig.ofSetting? .default
  let registry ←
    settings.sectionOr "registry" (readSection? RegistryConfig.fields RegistryConfig.read?) {}
  let collection ← settings.sectionOr "collection" CollectionConfig.ofSetting? {}
  pure { cache, grid, upload, storage, registry, collection }

end Config

end Cadastre
