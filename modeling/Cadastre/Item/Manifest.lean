import Cadastre.Item.Content
import Cadastre.Item.Index
import Cadastre.Fault
import Cadastre.Grid.Partition
import Cadastre.Json.Form
import Cadastre.Json.Reader
import Cadastre.Json.Writer
import Cadastre.Text.Numeral
import Cadastre.Text.Quoted

/-!
Manifests: the metadata document that is published next to each image. Members that a manifest
does not know are kept, and written back behind the known ones.
-/

namespace Cadastre

structure Creator where
  address : String
  share : UInt8
  verified : Option Bool
  deriving DecidableEq, Repr

structure ManifestFile where
  contentType : String
  uri : String
  deriving DecidableEq, Repr

structure ManifestProperties where
  creators : List Creator := []
  files : List ManifestFile := []
  extra : Json.Members := []

structure Manifest where
  name : String
  symbol : Option String
  sellerFee : UInt16
  image : String
  properties : ManifestProperties
  extra : Json.Members

inductive ManifestFault where
  | unreadable
  | emptyName
  | feeTooHigh (fee : UInt16)
  | shares (total : Nat)
  | noIndex (name : String)
  | badIndex (name : String)
  | misfiled (path : String) (named filed : GlobalIndex)

namespace ManifestFault

def message : ManifestFault → String
  | unreadable => Json.unreadable
  | emptyName => "name is empty"
  | feeTooHigh fee => s!"seller_fee_basis_points {fee} exceeds 10000"
  | shares total => s!"creator shares sum to {total}, expected 100"
  | noIndex name => s!"no index in name {Text.quoted name}"
  | badIndex name => s!"bad index in name {Text.quoted name}"
  | misfiled path named filed => s!"{path} names item {named} but the file is item {filed}"

def fault (reason : ManifestFault) : Fault := .invalidManifest reason.message

end ManifestFault

namespace Creator

open Json

def fields : List Field := [⟨"address", []⟩, ⟨"share", []⟩, ⟨"verified", []⟩]

def read? (document : Document) : Option Creator := do
  let form ← Form.ofDocument? fields document
  let address ← form.required "address" Document.text?
  let share ← form.required "share" (Document.natural? UInt8.size)
  let verified ← form.orDefault "verified" (Document.nullable? Document.flag?) none
  pure ⟨address, UInt8.ofNat share, verified⟩

def toJson (creator : Creator) : Json :=
  .object (
    [("address", .string creator.address), ("share", Json.nat creator.share.toNat)]
      ++ (creator.verified.map fun verified => ("verified", Json.bool verified)).toList)

def totalShare (creators : List Creator) : Nat :=
  creators.foldr (fun creator total => creator.share.toNat + total) 0

end Creator

namespace ManifestFile

open Json

def fields : List Field := [⟨"type", []⟩, ⟨"uri", []⟩]

def read? (document : Document) : Option ManifestFile := do
  let form ← Form.ofDocument? fields document
  let contentType ← form.required "type" Document.text?
  let uri ← form.required "uri" Document.text?
  pure ⟨contentType, uri⟩

def toJson (file : ManifestFile) : Json :=
  .object [("type", .string file.contentType), ("uri", .string file.uri)]

end ManifestFile

namespace ManifestProperties

open Json

def fields : List Field := [⟨"creators", []⟩, ⟨"files", []⟩]

def read? (depth : Nat) (document : Document) : Option ManifestProperties := do
  let members ← document.members?
  let form ← Form.ofMembers? fields members
  let creators ← form.orDefault "creators" (Document.list? Creator.read?) []
  let files ← form.orDefault "files" (Document.list? ManifestFile.read?) []
  let extra ← Form.extra? fields depth members
  pure ⟨creators, files, extra⟩

def toJson (properties : ManifestProperties) : Json :=
  .object (
    [("creators", .array (properties.creators.map Creator.toJson)),
      ("files", .array (properties.files.map ManifestFile.toJson))]
      ++ properties.extra)

end ManifestProperties

namespace Manifest

open Json

def fields : List Field :=
  [⟨"name", []⟩, ⟨"symbol", []⟩, ⟨"seller_fee_basis_points", []⟩, ⟨"image", []⟩,
    ⟨"properties", []⟩]

def ofDocument? (document : Document) : Option Manifest := do
  let members ← document.members?
  let form ← Form.ofMembers? fields members
  let name ← form.required "name" Document.text?
  let symbol ← form.orDefault "symbol" (Document.nullable? Document.text?) none
  let fee ← form.required "seller_fee_basis_points" (Document.natural? UInt16.size)
  let image ← form.orDefault "image" Document.text? ""
  let properties ←
    form.orDefault "properties" (ManifestProperties.read? (greatestDepth - 2)) ⟨[], [], []⟩
  let extra ← Form.extra? fields (greatestDepth - 1) members
  pure ⟨name, symbol, UInt16.ofNat fee, image, properties, extra⟩

/-- What keeps a document of the right form from being a manifest. -/
def fault? (manifest : Manifest) : Option ManifestFault :=
  let creators := manifest.properties.creators
  if (Text.trimChars manifest.name.toList).isEmpty then some .emptyName
  else if 10000 < manifest.sellerFee then some (.feeTooHigh manifest.sellerFee)
  else if !creators.isEmpty && Creator.totalShare creators ≠ 100 then
    some (.shares (Creator.totalShare creators))
  else none

def read (bytes : Bytes) : Except Fault Manifest :=
  match (Document.read? bytes).bind ofDocument? with
  | none => .error ManifestFault.unreadable.fault
  | some manifest =>
    match manifest.fault? with
    | some reason => .error reason.fault
    | none => .ok manifest

def toJson (manifest : Manifest) : Json :=
  .object (
    [("name", .string manifest.name)]
      ++ (manifest.symbol.map fun symbol => ("symbol", Json.string symbol)).toList
      ++ [("seller_fee_basis_points", Json.nat manifest.sellerFee.toNat),
        ("image", .string manifest.image), ("properties", manifest.properties.toJson)]
      ++ manifest.extra)

def text (manifest : Manifest) : String := manifest.toJson.write

def bytes (manifest : Manifest) : Bytes := Text.utf8 manifest.text

def indexKey? (manifest : Manifest) : Option String := Item.indexInName? manifest.name

def globalIndex (manifest : Manifest) : Except Fault GlobalIndex :=
  match manifest.indexKey? with
  | none => .error (ManifestFault.noIndex manifest.name).fault
  | some key =>
    match Text.readUInt64? key with
    | none => .error (ManifestFault.badIndex manifest.name).fault
    | some index => .ok index

/-- The manifest as it is published once its image is stored at `link`. -/
def withImage (manifest : Manifest) (link : Locator) : Manifest :=
  { manifest with
    image := link
    properties := { manifest.properties with files := [⟨ContentKind.image.mime, link⟩] } }

end Manifest

end Cadastre
