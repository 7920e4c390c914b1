import Cadastre.Pipeline.Site

/-!
The progress cache of a site: each function reads the file anew, and writing replaces it as a
whole.
-/

namespace Cadastre.ProgressCache

/-- What the cache file holds, none if there is no such file. -/
def contents : Work (Option Bytes) :=
  Work.expect Site.readCache fun reason => .cache (.io reason)

/-- The partition's record, if the file has an entry for it. -/
def readRecord (cache : ProgressCache) (partition : Partition) : Work (Option Record) := do
  let contents ← contents
  Work.check (cache.load contents partition) PipelineFault.cache

def writeRecord (cache : ProgressCache) (partition : Partition) (record : Record) :
    Work Unit := do
  let contents ← contents
  let updated ← Work.check (cache.save contents partition record) PipelineFault.cache
  Work.expect (Site.replaceCache updated) fun reason => .cache (.io reason)

def listPartitions (cache : ProgressCache) : Work (List Partition) := do
  let contents ← contents
  Work.check (cache.partitions contents) PipelineFault.cache

end Cadastre.ProgressCache
