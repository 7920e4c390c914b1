import Cadastre.Grid.Partition

/-!
An image and its metadata document on disk, sharing one index.
-/

namespace Cadastre

structure FilePair where
  key : GlobalIndex
  image : String
  metadata : String
  /-- Size of both files together. -/
  size : UInt64
  deriving DecidableEq, Repr

end Cadastre
