import Cadastre.Storage.Bundle
import Cadastre.Storage.Directory
import Cadastre.Storage.Ipfs
import Cadastre.Storage.S3

/-!
Storage providers, chosen by the settings. One that bundles stores a whole batch at once, the
others store one payload at a time.
-/

namespace Cadastre

inductive ObjectStore where
  | ipfs (store : IpfsStore)
  | s3 (store : S3Store)
  | directory (store : DirectoryStore)
  deriving DecidableEq, Repr

namespace ObjectStore

def name : ObjectStore → String
  | ipfs _ => "ipfs"
  | s3 _ => "s3"
  | directory _ => "filesystem"

def store : ObjectStore → StorePayload Machine
  | ipfs store => store.store
  | s3 store => store.store
  | directory store => store.store

def settings? : ObjectStore → Option String
  | ipfs store => some store.diagnostic
  | s3 store => some store.diagnostic
  | directory _ => none

end ObjectStore

inductive Provider where
  | bundled (client : BundleClient)
  | unbundled (store : ObjectStore)
  deriving DecidableEq, Repr

namespace Provider

def name : Provider → String
  | bundled _ => "bundle"
  | unbundled store => store.name

def isBundled : Provider → Bool
  | bundled _ => true
  | unbundled _ => false

def ofConfig (config : StorageConfig) : Job Machine (Except StorageFault Provider) :=
  match config.fault? with
  | some fault => pure (.error (.config fault.message))
  | none =>
    match config with
    | .bundle bundlerUrl gatewayUrl maxBundleSize =>
      pure (.ok (bundled { bundlerUrl, gatewayUrl, maxBundleSize }))
    | .ipfs apiUrl gatewayUrl projectId secretKey =>
      pure ((IpfsStore.create apiUrl gatewayUrl (projectId.getD "") (secretKey.getD "")).map
        fun store => unbundled (.ipfs store))
    | .s3 config => pure ((S3Store.create config).map fun store => unbundled (.s3 store))
    | .filesystem path publicBaseUrl => do
      let store ← DirectoryStore.create path publicBaseUrl
      pure (store.map fun store => unbundled (.directory store))

/-- Stores pairs: by one bundle, or one after the other up to the first that fails. -/
def storePairs (provider : Provider) (pairs : List PreparedPair) :
    Job Machine (Except StorageFault (List UploadedPair)) :=
  match provider with
  | bundled client => client.storeBatch pairs
  | unbundled store => PreparedPair.uploadAll store.store pairs

def diagnostic (provider : Provider) : String :=
  "UploadBackend \x7b provider: " ++ Text.quoted provider.name ++ ", bundled: "
    ++ (if provider.isBundled then "true" else "false") ++ " \x7d"

end Provider

end Cadastre
