/-!
What can be wrong with the grid, with items and with their records.
-/

namespace Cadastre

inductive Fault where
  | indexOutOfRange (index total : UInt64)
  | invalidPartition (tag : String)
  | invalidLocalKey (key total : UInt32)
  | invalidPartitionTag (text : String)
  | invalidPermutation (reason : String)
  | invalidLayout (reason : String)
  | payloadTooLarge (key size budget : UInt64)
  | invalidStateTransition (key before after : String)
  | invalidManifest (reason : String)
  | serialization (reason : String)
  deriving DecidableEq, Repr

namespace Fault

def message : Fault → String
  | indexOutOfRange index total => s!"global index {index} out of range (grid has {total} cells)"
  | invalidPartition tag => s!"partition {tag} is outside the grid"
  | invalidLocalKey key total => s!"local key {key} out of range (partition has {total} cells)"
  | invalidPartitionTag text => s!"invalid partition tag: {text}"
  | invalidPermutation reason => s!"invalid permutation: {reason}"
  | invalidLayout reason => s!"invalid grid layout: {reason}"
  | payloadTooLarge key size budget =>
    s!"file pair {key} too large ({size} bytes) for batch budget of {budget} bytes"
  | invalidStateTransition key before after =>
    s!"invalid state transition for item {key}: {before} -> {after}"
  | invalidManifest reason => s!"invalid manifest: {reason}"
  | serialization reason => s!"serialization error: {reason}"

end Fault

/-- The reason given when a text is no JSON, or JSON of another form than the expected one. -/
def Json.unreadable : String := "unreadable JSON"

end Cadastre
