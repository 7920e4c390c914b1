import Cadastre.Bytes.Radix64
import Cadastre.Json.Form
import Cadastre.Json.Reader
import Cadastre.Storage.Http
import Cadastre.Storage.Pair
import Cadastre.Storage.Url
import Cadastre.Text.Quoted

/-!
Pinning payloads through a node's interface; the node answers with the name of what it holds.
-/

namespace Cadastre

structure IpfsStore where
  apiUrl : String
  gatewayUrl : String
  projectId : String
  secretKey : String
  retries : Nat := Http.defaultRetries
  deriving DecidableEq, Repr

namespace IpfsStore

open Json

def create (apiUrl gatewayUrl projectId secretKey : String) : Except StorageFault IpfsStore :=
  if projectId.isEmpty || secretKey.isEmpty then
    .error (.config "ipfs storage requires both project_id and secret_key")
  else .ok { apiUrl, gatewayUrl, projectId, secretKey }

def authorization (store : IpfsStore) : String :=
  "Basic " ++ Bytes.base64 (Text.utf8 (store.projectId ++ ":" ++ store.secretKey))

def request (store : IpfsStore) (payload : Bytes) (kind : ContentKind) : HttpRequest where
  url := Url.join store.apiUrl "api/v0/add?pin=true"
  headers := [("authorization", store.authorization)]
  body := .form "file" ("asset." ++ kind.extension) payload

def readHash? (body : Bytes) : Option String := do
  let document ← Document.read? body
  let form ← Form.ofDocument? [⟨"Hash", []⟩] document
  form.required "Hash" Document.text?

def locator (store : IpfsStore) (response : HttpResponse) : Except StorageFault Locator :=
  match readHash? response.body with
  | some hash => .ok (Url.join store.gatewayUrl ("ipfs/" ++ hash))
  | none => .error (.invalidResponse s!"ipfs add: {Json.unreadable}")

def store (store : IpfsStore) : StorePayload Machine := fun payload kind => do
  let outcome ← Http.post store.retries (store.request payload kind)
  pure ((Http.checked "ipfs" outcome).bind store.locator)

def diagnostic (store : IpfsStore) : String :=
  "IpfsStore \x7b api_url: " ++ Text.quoted store.apiUrl ++ ", gateway_url: "
    ++ Text.quoted store.gatewayUrl ++ ", project_id: " ++ Text.quoted store.projectId
    ++ ", .. \x7d"

end IpfsStore

end Cadastre
