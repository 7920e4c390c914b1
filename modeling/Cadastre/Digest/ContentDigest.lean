import Cadastre.Bytes.Radix64
import Cadastre.Digest.Sha256

/-!
Digests that address stored payloads and bundle items.
-/

namespace Cadastre

structure ContentDigest where
  bytes : Bytes
  length_bytes : bytes.length = 32
  deriving DecidableEq

namespace ContentDigest

def ofBytes (payload : Bytes) : ContentDigest :=
  ⟨Digest.sha256 payload, Digest.length_sha256 payload⟩

/-- The digest of a payload that comes in parts is that of the parts joined. -/
def ofParts (parts : List Bytes) : ContentDigest :=
  ofBytes parts.flatten

def hex (digest : ContentDigest) : String :=
  Bytes.hex digest.bytes

def base64url (digest : ContentDigest) : String :=
  Bytes.base64url digest.bytes

/-- A path below two levels of directories, each named by two digits of the digest. -/
def objectKey (digest : ContentDigest) (extension : String) : String :=
  let hex := digest.hex
  let fan := hex.toList
  String.ofList (fan.take 2) ++ "/" ++ String.ofList ((fan.drop 2).take 2) ++ "/" ++ hex ++ "."
    ++ extension

/-- Enough of the digest to tell it from others in a diagnostic. -/
def abbreviated (digest : ContentDigest) : String :=
  "ContentHash(\"" ++ String.ofList (digest.hex.toList.take 12) ++ "\")"

end ContentDigest

end Cadastre
