import Cadastre.Item.FilePair
import Cadastre.Item.Record

/-!
What is left to upload.
-/

namespace Cadastre

/-- The pairs whose index is not among those of the stored items. -/
def Record.pendingPairs (record : Record) (candidates : List FilePair) : List FilePair :=
  let completed := record.completedKeys
  candidates.filter fun pair => !completed.contains (toString pair.key)

end Cadastre
