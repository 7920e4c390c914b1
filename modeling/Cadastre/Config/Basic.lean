import Cadastre.Grid.Layout
import Cadastre.Item.Manifest
import Cadastre.Path

/-!
Settings by section, with their defaults and with what makes them unusable.
-/

namespace Cadastre

inductive ConfigFault where
  | emptyName (field : String)
  | separatorInName (field : String)
  | layout (fault : LayoutFault)
  | zero (field : String)
  | noBundler
  | zeroBundleSize
  | ipfsCredentials
  | noBucket
  | s3Credentials
  | feeTooHigh (fee : UInt16)
  | shares (total : Nat)

namespace ConfigFault

def message : ConfigFault → String
  | emptyName field => s!"{field} must not be empty"
  | separatorInName field => s!"{field} must not contain path separators"
  | layout fault => (Fault.invalidLayout fault.message).message
  | zero field => s!"{field} must be > 0"
  | noBundler => "bundle storage requires bundler_url"
  | zeroBundleSize => "bundle max_bundle_size must be > 0"
  | ipfsCredentials => "ipfs storage requires both project_id and secret_key"
  | noBucket => "s3 storage requires bucket"
  | s3Credentials =>
    "s3 config requires both access_key_id and secret_access_key when either is set"
  | feeTooHigh fee => s!"collection.seller_fee_basis_points {fee} exceeds 10000"
  | shares total => s!"collection.creators shares sum to {total}, expected 100"

end ConfigFault

structure CacheConfig where
  dir : String := ".cache"
  env : String := "devnet"
  name : String := "temp"
  deriving DecidableEq, Repr

namespace CacheConfig

def filePath (config : CacheConfig) : String :=
  Path.join config.dir (config.env ++ "-" ++ config.name)

def nameFault? (field name : String) : Option ConfigFault :=
  if name.isEmpty then some (.emptyName field)
  else if name.toList.any fun c => c = '/' || c = '\\' then some (.separatorInName field)
  else none

def fault? (config : CacheConfig) : Option ConfigFault :=
  (nameFault? "cache.env" config.env).or (nameFault? "cache.name" config.name)

end CacheConfig

/-- The grid, and the file with the permutation of its partitions if it is not the identity. -/
structure GridConfig where
  gridWidth : UInt64 := 1000
  gridHeight : UInt64 := 1000
  partitionWidth : UInt32 := 200
  partitionHeight : UInt32 := 200
  permutation : Option String := none
  deriving DecidableEq, Repr

namespace GridConfig

def layout (config : GridConfig) : Layout :=
  ⟨config.gridWidth, config.gridHeight, config.partitionWidth, config.partitionHeight⟩

def fault? (config : GridConfig) : Option ConfigFault :=
  config.layout.fault?.map .layout

end GridConfig

structure UploadConfig where
  assetsDir : String := "./assets"
  /-- Bytes of one batch at most. -/
  batchSizeLimit : UInt64 := 10000000
  deriving DecidableEq, Repr

namespace UploadConfig

def fault? (config : UploadConfig) : Option ConfigFault :=
  if config.batchSizeLimit = 0 then some (.zero "upload.batch_size_limit") else none

end UploadConfig

structure S3Config where
  bucket : String
  endpoint : Option String := none
  region : Option String := none
  keyPrefix : Option String := none
  accessKeyId : Option String := none
  secretAccessKey : Option String := none
  forcePathStyle : Bool := false
  publicBaseUrl : Option String := none
  deriving DecidableEq, Repr

inductive StorageConfig where
  | bundle (bundlerUrl gatewayUrl : String) (maxBundleSize : UInt64)
  | ipfs (apiUrl gatewayUrl : String) (projectId secretKey : Option String)
  | s3 (config : S3Config)
  | filesystem (path : String) (publicBaseUrl : Option String)
  deriving DecidableEq, Repr

namespace StorageConfig

def default : StorageConfig := filesystem "./data/storage" none

def kind : StorageConfig → String
  | bundle .. => "bundle"
  | ipfs .. => "ipfs"
  | s3 .. => "s3"
  | filesystem .. => "filesystem"

def fault? : StorageConfig → Option ConfigFault
  | bundle bundlerUrl _ maxBundleSize =>
    if bundlerUrl.isEmpty then some .noBundler
    else if maxBundleSize = 0 then some .zeroBundleSize
    else none
  | ipfs _ _ projectId secretKey =>
    if (projectId.getD "").isEmpty || (secretKey.getD "").isEmpty then some .ipfsCredentials
    else none
  | s3 config =>
    if config.bucket.isEmpty then some .noBucket
    else if config.accessKeyId.isSome = config.secretAccessKey.isSome then none
    else some .s3Credentials
  | filesystem .. => none

end StorageConfig

structure RegistryConfig where
  path : String := "./data/registry.json"
  /-- Lines written by one call. -/
  windowSize : UInt64 := 10
  /-- Calls under way at a time. -/
  concurrency : UInt64 := 100
  deriving DecidableEq, Repr

namespace RegistryConfig

def fault? (config : RegistryConfig) : Option ConfigFault :=
  if config.windowSize = 0 then some (.zero "registry.window_size")
  else if config.concurrency = 0 then some (.zero "registry.concurrency")
  else none

end RegistryConfig

/-- What a new registry is told about its collection. What is unset comes from the first item's
manifest. -/
structure CollectionConfig where
  symbol : Option String := none
  sellerFee : Option UInt16 := none
  creators : List Creator := []
  isMutable : Bool := true
  retainAuthority : Bool := true
  deriving DecidableEq, Repr

namespace CollectionConfig

def fault? (config : CollectionConfig) : Option ConfigFault :=
  match config.sellerFee.filter fun fee => 10000 < fee with
  | some fee => some (.feeTooHigh fee)
  | none =>
    if !config.creators.isEmpty && Creator.totalShare config.creators ≠ 100 then
      some (.shares (Creator.totalShare config.creators))
    else none

end CollectionConfig

structure Config where
  cache : CacheConfig := {}
  grid : GridConfig := {}
  upload : UploadConfig := {}
  storage : StorageConfig := .default
  registry : RegistryConfig := {}
  collection : CollectionConfig := {}
  deriving DecidableEq, Repr

namespace Config

def fault? (config : Config) : Option ConfigFault :=
  config.cache.fault?.or <| config.grid.fault?.or <| config.upload.fault?.or <|
    config.storage.fault?.or <| config.registry.fault?.or config.collection.fault?

/-- Settings for a scratch directory: a small grid, and everything in files below `root`. -/
def scratch (root : String) : Config where
  cache := { dir := Path.join root "cache" }
  grid := { gridWidth := 20, gridHeight := 20, partitionWidth := 10, partitionHeight := 10 }
  upload := { assetsDir := Path.join root "assets" }
  storage := .filesystem (Path.join root "storage") none
  registry := { path := Path.join root "registry.json" }

end Config

end Cadastre
