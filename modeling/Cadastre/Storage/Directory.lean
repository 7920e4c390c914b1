import Cadastre.Digest.ContentDigest
import Cadastre.Machine.Basic
import Cadastre.Path
import Cadastre.Storage.Pair
import Cadastre.Storage.Url

/-!
Objects in a local directory, each under its digest. A payload that is there already is not
written again, since an equal name stands for an equal payload.
-/

namespace Cadastre

structure DirectoryStore where
  /-- Absolute path of the directory. -/
  root : String
  publicBaseUrl : Option String
  deriving DecidableEq, Repr

namespace DirectoryStore

def objectKey (payload : Bytes) (kind : ContentKind) : String :=
  (ContentDigest.ofBytes payload).objectKey kind.extension

def locator (store : DirectoryStore) (key : String) : Locator :=
  match store.publicBaseUrl with
  | some base => Url.join base key
  | none => "file://" ++ Path.join store.root key

def create (root : String) (publicBaseUrl : Option String) :
    Job Machine (Except StorageFault DirectoryStore) := do
  match ← Machine.createDirectory root with
  | .error fault => pure (.error (.io fault.reason))
  | .ok root => pure (.ok ⟨root, publicBaseUrl⟩)

def store (store : DirectoryStore) : StorePayload Machine := fun payload kind => do
  let key := objectKey payload kind
  let path := Path.join store.root key
  match ← Machine.kindOf path with
  | .error fault => pure (.error (.io fault.reason))
  | .ok (some _) => pure (.ok (store.locator key))
  | .ok none =>
    match ← Machine.replaceFile path payload with
    | .error fault => pure (.error (.io fault.reason))
    | .ok () => pure (.ok (store.locator key))

end DirectoryStore

end Cadastre
