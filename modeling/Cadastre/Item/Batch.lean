import Cadastre.Item.FilePair

/-!
Splitting a queue of file pairs into batches that each fit a budget of bytes.
-/

namespace Cadastre

structure Batch where
  items : List FilePair
  /-- Size of all items together. -/
  bytes : UInt64
  deriving DecidableEq, Repr

namespace Batch

/-- Fills batches one after the other: the open one holds `held`, in reverse, of `bytes` bytes. -/
def pack (budget : UInt64) (held : List FilePair) (bytes : UInt64) : List FilePair → List Batch
  | [] => if held.isEmpty then [] else [⟨held.reverse, bytes⟩]
  | pair :: rest =>
    if !held.isEmpty && budget < bytes + pair.size then
      ⟨held.reverse, bytes⟩ :: pack budget [pair] pair.size rest
    else pack budget (pair :: held) (bytes + pair.size) rest

/-- The batches of a queue, in order. A pair that is too large by itself fails the whole plan. -/
def plan (items : List FilePair) (budget : UInt64) : Except Fault (List Batch) :=
  match items.find? fun pair => budget < pair.size with
  | some pair => .error (.payloadTooLarge pair.key pair.size budget)
  | none => .ok (pack budget [] 0 items)

end Batch

end Cadastre
