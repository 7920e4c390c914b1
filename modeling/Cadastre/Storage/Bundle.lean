import Cadastre.Bytes.Radix64
import Cadastre.Digest.ContentDigest
import Cadastre.Item.Content
import Cadastre.Storage.Http
import Cadastre.Storage.Pair
import Cadastre.Storage.Url

/-!
Bundles: many payloads in one byte sequence. A bundle begins with the number of its items and, for
each, its size and its digest; the items follow, each with its type in front. Numbers in the head
take thirty-two bytes, lowest first.
-/

namespace Cadastre

structure DataItem where
  kind : ContentKind
  payload : Bytes
  deriving DecidableEq, Repr

namespace DataItem

def mimeBytes (item : DataItem) : Bytes := Text.utf8 item.kind.mime

/-- The item is known by the digest of its type and its payload. -/
def id (item : DataItem) : ContentDigest :=
  ContentDigest.ofParts [item.mimeBytes, item.payload]

def body (item : DataItem) : Bytes :=
  Bytes.littleEndian 2 item.mimeBytes.length ++ item.mimeBytes ++ item.payload

def bodyLength (item : DataItem) : Nat :=
  2 + item.mimeBytes.length + item.payload.length

theorem length_body (item : DataItem) : item.body.length = item.bodyLength := by
  simp [body, bodyLength, Nat.add_assoc]

end DataItem

namespace Bundle

def fieldLength : Nat := 32

def field (n : Nat) : Bytes :=
  Bytes.littleEndian 8 n ++ List.replicate (fieldLength - 8) 0

@[simp] theorem length_field (n : Nat) : (field n).length = fieldLength := by
  simp [field, fieldLength]

def head (items : List DataItem) : Bytes :=
  field items.length ++ items.flatMap fun item => field item.bodyLength ++ item.id.bytes

def encode (items : List DataItem) : Bytes :=
  head items ++ items.flatMap DataItem.body

def length (items : List DataItem) : Nat :=
  fieldLength + items.length * fieldLength * 2
    + items.foldr (fun item total => item.bodyLength + total) 0

theorem length_head (items : List DataItem) :
    (head items).length = fieldLength + items.length * fieldLength * 2 := by
  have entries : (items.flatMap fun item => field item.bodyLength ++ item.id.bytes).length
      = items.length * fieldLength * 2 := by
    induction items with
    | nil => rfl
    | cons item rest ih =>
      simp only [List.flatMap_cons, List.length_append, length_field, ih,
        item.id.length_bytes, List.length_cons, fieldLength]
      omega
  simp [head, entries]

theorem length_encode (items : List DataItem) : (encode items).length = length items := by
  have bodies : (items.flatMap DataItem.body).length
      = items.foldr (fun item total => item.bodyLength + total) 0 := by
    induction items with
    | nil => rfl
    | cons item rest ih => simp [DataItem.length_body, ih]
  simp [encode, length, length_head, bodies]

end Bundle

structure BundleClient where
  bundlerUrl : String
  gatewayUrl : String
  maxBundleSize : UInt64
  retries : Nat := Http.defaultRetries
  deriving DecidableEq, Repr

namespace BundleClient

def appName : String := "tessera"

def appVersion : String := "0.1.0"

def locator (client : BundleClient) (item : DataItem) : Locator :=
  Url.join client.gatewayUrl item.id.base64url

/-- What storing the pair will come to, with the two items that do it. -/
def arrange (client : BundleClient) (pair : PreparedPair) : UploadedPair × List DataItem :=
  let image : DataItem := ⟨.image, pair.image⟩
  let manifest := pair.manifest.withImage (client.locator image)
  let metadata : DataItem := ⟨.metadata, manifest.bytes⟩
  (⟨pair.key, client.locator image, manifest, client.locator metadata⟩, [image, metadata])

def request (client : BundleClient) (items : List DataItem) : HttpRequest where
  url := client.bundlerUrl
  headers := [("content-type", "application/octet-stream"), ("app-name", appName),
    ("app-version", appVersion)]
  body := .bytes (Bundle.encode items)

/-- Stores all pairs by one bundle. A bundle above the limit is not sent. -/
def storeBatch (client : BundleClient) (pairs : List PreparedPair) :
    Job Machine (Except StorageFault (List UploadedPair)) :=
  let arranged := pairs.map client.arrange
  let items := arranged.flatMap Prod.snd
  let size := Bundle.length items
  let limit := client.maxBundleSize.toNat
  if limit < size then pure (.error (.batchTooLarge size limit))
  else do
    let outcome ← Http.post client.retries (client.request items)
    pure ((Http.checked "bundler" outcome).map fun _ => arranged.map Prod.fst)

end BundleClient

end Cadastre
