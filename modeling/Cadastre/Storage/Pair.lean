import Cadastre.Item.Manifest
import Cadastre.Job
import Cadastre.Storage.Fault

/-!
File pairs on their way to a provider: loaded, and stored.
-/

namespace Cadastre

structure PreparedPair where
  key : GlobalIndex
  image : Bytes
  manifest : Manifest

structure UploadedPair where
  key : GlobalIndex
  image : Locator
  /-- The manifest as it is published, naming the stored image. -/
  manifest : Manifest
  link : Locator

abbrev StorePayload (S : Signature) : Type :=
  Bytes → ContentKind → Job S (Except StorageFault Locator)

def PreparedPair.upload {S : Signature} (store : StorePayload S) (pair : PreparedPair) :
    Job S (Except StorageFault UploadedPair) :=
  ExceptT.run do
    let image ← ExceptT.mk (store pair.image .image)
    let manifest := pair.manifest.withImage image
    let link ← ExceptT.mk (store manifest.bytes .metadata)
    pure ⟨pair.key, image, manifest, link⟩

/-- Stores pairs one after the other, up to the first that fails. -/
def PreparedPair.uploadAll {S : Signature} (store : StorePayload S) (pairs : List PreparedPair) :
    Job S (Except StorageFault (List UploadedPair)) :=
  ExceptT.run (pairs.mapM fun pair => ExceptT.mk (pair.upload store))

end Cadastre
