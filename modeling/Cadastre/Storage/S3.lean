import Cadastre.Config.Basic
import Cadastre.Digest.ContentDigest
import Cadastre.Machine.Basic
import Cadastre.Storage.Pair
import Cadastre.Storage.Url

/-!
Objects in a bucket, each under its digest.
-/

namespace Cadastre

structure S3Store where
  endpoint : Option String
  region : String
  bucket : String
  keyPrefix : Option String
  publicBaseUrl : String
  deriving DecidableEq, Repr

namespace S3Store

def lower (s : String) : List Char := s.toList.map Char.toLower

/-- An endpoint that names no scheme is spoken to plainly. -/
def normalizeEndpoint (endpoint : String) : String :=
  if "http://".toList.isPrefixOf (lower endpoint) || "https://".toList.isPrefixOf (lower endpoint)
  then endpoint
  else "http://" ++ endpoint

def create (config : S3Config) : Except StorageFault S3Store :=
  if config.accessKeyId.isSome ≠ config.secretAccessKey.isSome then
    .error (.config ConfigFault.s3Credentials.message)
  else
    let region := config.region.getD "us-east-1"
    let endpoint := config.endpoint.map normalizeEndpoint
    let publicBaseUrl := config.publicBaseUrl.getD <|
      match endpoint with
      | some url => Url.join url config.bucket
      | none => s!"https://{config.bucket}.s3.{region}.amazonaws.com"
    .ok ⟨endpoint, region, config.bucket, config.keyPrefix.map Url.trimTrailingSlashes,
      publicBaseUrl⟩

def objectKey (store : S3Store) (payload : Bytes) (kind : ContentKind) : String :=
  let name := (ContentDigest.ofBytes payload).hex ++ "." ++ kind.extension
  match store.keyPrefix with
  | some keyPrefix => keyPrefix ++ "/" ++ name
  | none => name

def request (store : S3Store) (payload : Bytes) (kind : ContentKind) : PutRequest :=
  ⟨store.endpoint, store.region, store.bucket, store.objectKey payload kind, kind.mime, payload⟩

def store (store : S3Store) : StorePayload Machine := fun payload kind => do
  match ← Machine.putObject (store.request payload kind) with
  | .error reason => pure (.error (.s3 reason))
  | .ok () => pure (.ok (Url.join store.publicBaseUrl (store.objectKey payload kind)))

def diagnostic (store : S3Store) : String :=
  "S3Store \x7b bucket: " ++ Text.quoted store.bucket ++ ", prefix: "
    ++ (match store.keyPrefix with
      | some keyPrefix => "Some(" ++ Text.quoted keyPrefix ++ ")"
      | none => "None")
    ++ ", public_base_url: " ++ Text.quoted store.publicBaseUrl ++ ", .. \x7d"

end S3Store

end Cadastre
