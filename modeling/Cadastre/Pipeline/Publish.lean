import Cadastre.Pipeline.Sync

/-!
The commands on a partition. Each opens the partition's record, works on it in memory, and saves
it after every step, so that it may be cut at any point and run again.
-/

namespace Cadastre

structure PublishReport where
  partition : Partition
  upload : UploadSummary
  sync : SyncReport
  deriving DecidableEq, Repr

structure PartitionStatus where
  partition : Partition
  /-- Complete pairs on disk. -/
  onDisk : Nat
  counts : StateCounts
  program : Option Program
  deriving DecidableEq, Repr

namespace Pipeline

def upload (pipeline : Pipeline) (partition : Partition) : Work UploadSummary := do
  let handle ← pipeline.openPartition partition
  let (summary, _) ← pipeline.uploadHandle handle
  pure summary

def sync (pipeline : Pipeline) (partition : Partition) : Work SyncReport := do
  let handle ← pipeline.openPartition partition
  let (report, _) ← pipeline.syncHandle handle
  pure report

/-- Uploads, then writes to the registry. After an interrupted upload nothing is written; the next
time resumes the upload first. -/
def publish (pipeline : Pipeline) (partition : Partition) : Work PublishReport := do
  let handle ← pipeline.openPartition partition
  let (upload, handle) ← pipeline.uploadHandle handle
  if upload.interrupted then do
    let sync ← emptyReport
    pure ⟨partition, upload, sync⟩
  else do
    let (sync, _) ← pipeline.syncHandle handle
    pure ⟨partition, upload, sync⟩

def status (pipeline : Pipeline) (partition : Partition) : Work PartitionStatus := do
  let handle ← pipeline.openPartition partition
  let candidates ← Source.candidates pipeline.assetsDir pipeline.remapper partition
  pure ⟨partition, candidates.length, handle.record.counts, handle.record.program⟩

/-- Stores and records at most the first `count` groups, and stops there. -/
def uploadSteps (pipeline : Pipeline) (handle : PartitionHandle) (count : Nat) :
    Job Site UploadRun := do
  if count = 0 then pure ⟨[], handle.record, none⟩
  else
    match ← (pipeline.plan handle).run with
    | .error fault => pure ⟨[], handle.record, some fault⟩
    | .ok plan => pipeline.uploadGroups handle 0 (plan.groups.take count)

end Pipeline

end Cadastre
