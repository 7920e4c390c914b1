import Cadastre.Fault

/-!
What can go wrong in storing, and which of it is the provider's doing.
-/

namespace Cadastre

inductive StorageFault where
  | config (reason : String)
  | batchTooLarge (size limit : Nat)
  | provider (reason : String)
  | invalidResponse (reason : String)
  | http (reason : String)
  | io (reason : String)
  | s3 (reason : String)
  | core (fault : Fault)
  deriving DecidableEq, Repr

namespace StorageFault

def message : StorageFault → String
  | config reason => s!"configuration error: {reason}"
  | batchTooLarge size limit =>
    s!"bundle of {size} bytes exceeds provider limit of {limit} bytes"
  | provider reason => s!"provider error: {reason}"
  | invalidResponse reason => s!"unexpected provider response: {reason}"
  | http reason => s!"HTTP error: {reason}"
  | io reason => s!"I/O error: {reason}"
  | s3 reason => s!"S3 error: {reason}"
  | core fault => fault.message

/-- Whether the work may be tried again later. -/
def isProviderFailure : StorageFault → Bool
  | provider _ | invalidResponse _ | http _ | io _ | s3 _ => true
  | config _ | batchTooLarge _ _ | core _ => false

end StorageFault

end Cadastre
