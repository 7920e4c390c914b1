import Cadastre.Config.Basic

/-!
Settings as documents. Every setting that has a default may be left out; the kind of storage is
told by the member `type`, or by the first item where the settings come as a list.
-/

namespace Cadastre

open Json

def Json.Document.unsigned32? (document : Document) : Option UInt32 :=
  (document.natural? UInt32.size).map UInt32.ofNat

def Json.Document.unsigned64? (document : Document) : Option UInt64 :=
  (document.natural? UInt64.size).map UInt64.ofNat

def Json.orNull {α : Type} (write : α → Json) (value : Option α) : Json :=
  (value.map write).getD .null

namespace CacheConfig

def fields : List Field := [⟨"dir", []⟩, ⟨"env", []⟩, ⟨"name", []⟩]

def read? (document : Document) : Option CacheConfig := do
  let form ← Form.ofDocument? fields document
  let unset : CacheConfig := {}
  let dir ← form.orDefault "dir" Document.text? unset.dir
  let env ← form.orDefault "env" Document.text? unset.env
  let name ← form.orDefault "name" Document.text? unset.name
  pure { dir, env, name }

def toJson (config : CacheConfig) : Json :=
  .object [("dir", .string config.dir), ("env", .string config.env), ("name", .string config.name)]

end CacheConfig

def Layout.members (layout : Layout) : Members :=
  [("grid_width", Json.nat layout.gridWidth.toNat),
    ("grid_height", Json.nat layout.gridHeight.toNat),
    ("partition_width", Json.nat layout.partitionWidth.toNat),
    ("partition_height", Json.nat layout.partitionHeight.toNat)]

namespace GridConfig

def fields : List Field :=
  [⟨"grid_width", []⟩, ⟨"grid_height", []⟩, ⟨"partition_width", []⟩, ⟨"partition_height", []⟩,
    ⟨"permutation", []⟩]

def read? (document : Document) : Option GridConfig := do
  let form ← Form.ofDocument? fields document
  let unset : GridConfig := {}
  let gridWidth ← form.orDefault "grid_width" Document.unsigned64? unset.gridWidth
  let gridHeight ← form.orDefault "grid_height" Document.unsigned64? unset.gridHeight
  let partitionWidth ← form.orDefault "partition_width" Document.unsigned32? unset.partitionWidth
  let partitionHeight ← form.orDefault "partition_height" Document.unsigned32? unset.partitionHeight
  let permutation ← form.orDefault "permutation" (Document.nullable? Document.text?) none
  pure { gridWidth, gridHeight, partitionWidth, partitionHeight, permutation }

def toJson (config : GridConfig) : Json :=
  .object (config.layout.members ++ [("permutation", Json.orNull .string config.permutation)])

end GridConfig

namespace UploadConfig

def fields : List Field := [⟨"assets_dir", []⟩, ⟨"batch_size_limit", []⟩]

def read? (document : Document) : Option UploadConfig := do
  let form ← Form.ofDocument? fields document
  let unset : UploadConfig := {}
  let assetsDir ← form.orDefault "assets_dir" Document.text? unset.assetsDir
  let batchSizeLimit ← form.orDefault "batch_size_limit" Document.unsigned64? unset.batchSizeLimit
  pure { assetsDir, batchSizeLimit }

def toJson (config : UploadConfig) : Json :=
  .object [("assets_dir", .string config.assetsDir),
    ("batch_size_limit", Json.nat config.batchSizeLimit.toNat)]

end UploadConfig

namespace S3Config

def fields : List Field :=
  [⟨"bucket", []⟩, ⟨"endpoint", []⟩, ⟨"region", []⟩, ⟨"prefix", []⟩, ⟨"access_key_id", []⟩,
    ⟨"secret_access_key", []⟩, ⟨"force_path_style", []⟩, ⟨"public_base_url", []⟩]

def ofForm? (form : Form) : Option S3Config := do
  let bucket ← form.required "bucket" Document.text?
  let endpoint ← form.optional "endpoint" Document.text?
  let region ← form.optional "region" Document.text?
  let keyPrefix ← form.optional "prefix" Document.text?
  let accessKeyId ← form.optional "access_key_id" Document.text?
  let secretAccessKey ← form.optional "secret_access_key" Document.text?
  let forcePathStyle ← form.orDefault "force_path_style" Document.flag? false
  let publicBaseUrl ← form.optional "public_base_url" Document.text?
  pure ⟨bucket, endpoint, region, keyPrefix, accessKeyId, secretAccessKey, forcePathStyle,
    publicBaseUrl⟩

def members (config : S3Config) : Members :=
  [("bucket", .string config.bucket), ("endpoint", Json.orNull .string config.endpoint),
    ("region", Json.orNull .string config.region),
    ("prefix", Json.orNull .string config.keyPrefix),
    ("access_key_id", Json.orNull .string config.accessKeyId),
    ("secret_access_key", Json.orNull .string config.secretAccessKey),
    ("force_path_style", .bool config.forcePathStyle),
    ("public_base_url", Json.orNull .string config.publicBaseUrl)]

end S3Config

namespace StorageConfig

def bundleFields : List Field :=
  [⟨"bundler_url", []⟩, ⟨"gateway_url", []⟩, ⟨"max_bundle_size", []⟩]

def bundleOfForm? (form : Form) : Option StorageConfig := do
  let bundlerUrl ← form.required "bundler_url" Document.text?
  let gatewayUrl ← form.orDefault "gateway_url" Document.text? "https://arweave.net"
  let maxBundleSize ← form.orDefault "max_bundle_size" Document.unsigned64? 50000000
  pure (.bundle bundlerUrl gatewayUrl maxBundleSize)

def ipfsFields : List Field :=
  [⟨"api_url", []⟩, ⟨"gateway_url", []⟩, ⟨"project_id", []⟩, ⟨"secret_key", []⟩]

def ipfsOfForm? (form : Form) : Option StorageConfig := do
  let apiUrl ← form.orDefault "api_url" Document.text? "https://ipfs.infura.io:5001"
  let gatewayUrl ← form.orDefault "gateway_url" Document.text? "https://ipfs.io"
  let projectId ← form.optional "project_id" Document.text?
  let secretKey ← form.optional "secret_key" Document.text?
  pure (.ipfs apiUrl gatewayUrl projectId secretKey)

def filesystemFields : List Field := [⟨"path", []⟩, ⟨"public_base_url", []⟩]

def filesystemOfForm? (form : Form) : Option StorageConfig := do
  let path ← form.required "path" Document.text?
  let publicBaseUrl ← form.optional "public_base_url" Document.text?
  pure (.filesystem path publicBaseUrl)

/-- The settings of one kind of storage, without the kind itself. -/
def ofKind? (kind : String) (document : Document) : Option StorageConfig :=
  match kind with
  | "bundle" => (Form.ofDocument? bundleFields document).bind bundleOfForm?
  | "ipfs" => (Form.ofDocument? ipfsFields document).bind ipfsOfForm?
  | "s3" => ((Form.ofDocument? S3Config.fields document).bind S3Config.ofForm?).map .s3
  | "filesystem" => (Form.ofDocument? filesystemFields document).bind filesystemOfForm?
  | _ => none

def splitKind? : Document → Option (String × Document)
  | .array (kind :: rest) => kind.text?.map fun kind => (kind, .array rest)
  | .object members =>
    let (kinds, rest) := members.partition fun member => member.1.text = some "type"
    match kinds with
    | [(_, kind)] => kind.text?.map fun kind => (kind, .object rest)
    | _ => none
  | _ => none

/-- Settings that nest at most `depth` levels. All members must be readable, known or not, since
they are gone through before the kind is known. -/
def read? (depth : Nat) (document : Document) : Option StorageConfig := do
  let _ ← document.settle? depth
  let (kind, rest) ← splitKind? document
  ofKind? kind rest

def members : StorageConfig → Members
  | bundle bundlerUrl gatewayUrl maxBundleSize =>
    [("bundler_url", .string bundlerUrl), ("gateway_url", .string gatewayUrl),
      ("max_bundle_size", Json.nat maxBundleSize.toNat)]
  | ipfs apiUrl gatewayUrl projectId secretKey =>
    [("api_url", .string apiUrl), ("gateway_url", .string gatewayUrl),
      ("project_id", Json.orNull .string projectId), ("secret_key", Json.orNull .string secretKey)]
  | s3 config => config.members
  | filesystem path publicBaseUrl =>
    [("path", .string path), ("public_base_url", Json.orNull .string publicBaseUrl)]

def toJson (config : StorageConfig) : Json :=
  .object (("type", .string config.kind) :: config.members)

end StorageConfig

namespace RegistryConfig

def fields : List Field := [⟨"path", []⟩, ⟨"window_size", []⟩, ⟨"concurrency", []⟩]

def read? (document : Document) : Option RegistryConfig := do
  let form ← Form.ofDocument? fields document
  let unset : RegistryConfig := {}
  let path ← form.orDefault "path" Document.text? unset.path
  let windowSize ← form.orDefault "window_size" Document.unsigned64? unset.windowSize
  let concurrency ← form.orDefault "concurrency" Document.unsigned64? unset.concurrency
  pure { path, windowSize, concurrency }

def toJson (config : RegistryConfig) : Json :=
  .object [("path", .string config.path), ("window_size", Json.nat config.windowSize.toNat),
    ("concurrency", Json.nat config.concurrency.toNat)]

end RegistryConfig

namespace CollectionConfig

def fields : List Field :=
  [⟨"symbol", []⟩, ⟨"seller_fee_basis_points", []⟩, ⟨"creators", []⟩, ⟨"is_mutable", []⟩,
    ⟨"retain_authority", []⟩]

def fee? (document : Document) : Option UInt16 :=
  (document.natural? UInt16.size).map UInt16.ofNat

def read? (document : Document) : Option CollectionConfig := do
  let form ← Form.ofDocument? fields document
  let symbol ← form.orDefault "symbol" (Document.nullable? Document.text?) none
  let sellerFee ← form.orDefault "seller_fee_basis_points" (Document.nullable? fee?) none
  let creators ← form.orDefault "creators" (Document.list? Creator.read?) []
  let isMutable ← form.orDefault "is_mutable" Document.flag? true
  let retainAuthority ← form.orDefault "retain_authority" Document.flag? true
  pure { symbol, sellerFee, creators, isMutable, retainAuthority }

def toJson (config : CollectionConfig) : Json :=
  .object [("symbol", Json.orNull .string config.symbol),
    ("seller_fee_basis_points", Json.orNull (fun fee => Json.nat fee.toNat) config.sellerFee),
    ("creators", .array (config.creators.map Creator.toJson)),
    ("is_mutable", .bool config.isMutable), ("retain_authority", .bool config.retainAuthority)]

end CollectionConfig

namespace Config

def fields : List Field :=
  [⟨"cache", []⟩, ⟨"grid", []⟩, ⟨"upload", []⟩, ⟨"storage", []⟩, ⟨"registry", []⟩,
    ⟨"collection", []⟩]

/-- Settings that nest at most `depth` levels where they are free-form. -/
def read? (depth : Nat) (document : Document) : Option Config := do
  let form ← Form.ofDocument? fields document
  let cache ← form.orDefault "cache" CacheConfig.read? {}
  let grid ← form.orDefault "grid" GridConfig.read? {}
  let upload ← form.orDefault "upload" UploadConfig.read? {}
  let storage ← form.orDefault "storage" (StorageConfig.read? (depth - 1)) .default
  let registry ← form.orDefault "registry" RegistryConfig.read? {}
  let collection ← form.orDefault "collection" CollectionConfig.read? {}
  pure { cache, grid, upload, storage, registry, collection }

def toJson (config : Config) : Json :=
  .object [("cache", config.cache.toJson), ("grid", config.grid.toJson),
    ("upload", config.upload.toJson), ("storage", config.storage.toJson),
    ("registry", config.registry.toJson), ("collection", config.collection.toJson)]

end Config

end Cadastre
