import Cadastre.Item.Batch
import Cadastre.Pipeline.Pending
import Cadastre.Pipeline.Progress
import Cadastre.Pipeline.Source

/-!
Uploading a partition. What is left to do is computed anew on every run: the pairs on disk less the
items that are recorded as stored. It is done in groups, and each group is recorded in the cache
before the next one is begun.
-/

namespace Cadastre

structure Pipeline where
  cache : ProgressCache
  remapper : Remapper
  assetsDir : String
  /-- Whether the provider takes whole batches. -/
  bundled : Bool
  batchSizeLimit : UInt64
  windowSize : UInt64
  concurrency : UInt64
  collection : CollectionConfig

structure PartitionHandle where
  partition : Partition
  record : Record

structure UploadStep where
  /-- Position of the group in this run. -/
  batch : Nat
  uploaded : List UploadedPair

structure UploadPlan where
  pending : Nat
  groups : List (List FilePair)
  deriving DecidableEq, Repr

structure UploadSummary where
  /-- Items that were to be uploaded when the run began. -/
  pending : Nat
  uploaded : Nat
  batches : Nat
  /-- Whether a provider failure ended the run early. -/
  interrupted : Bool
  deriving DecidableEq, Repr

/-- What came of a list of groups: those that were stored, the record after them, and the fault
that stopped the run if one did. -/
structure UploadRun where
  steps : List UploadStep
  record : Record
  fault : Option PipelineFault

def UploadRun.uploaded (run : UploadRun) : Nat :=
  run.steps.foldr (fun step total => step.uploaded.length + total) 0

namespace Pipeline

def openPartition (pipeline : Pipeline) (partition : Partition) : Work PartitionHandle := do
  if !pipeline.remapper.layout.contains partition then
    throw (.core (.invalidPartition partition.tag))
  let record ← pipeline.cache.readRecord partition
  pure ⟨partition, record.getD {}⟩

def persist (pipeline : Pipeline) (handle : PartitionHandle) : Work Unit :=
  pipeline.cache.writeRecord handle.partition handle.record

/-- The groups of a queue: batches for a provider that bundles, single pairs for others. -/
def groupsOf (pipeline : Pipeline) (pending : List FilePair) :
    Except Fault (List (List FilePair)) :=
  if pipeline.bundled then
    (Batch.plan pending pipeline.batchSizeLimit).map fun batches => batches.map Batch.items
  else .ok (pending.map fun pair => [pair])

def plan (pipeline : Pipeline) (handle : PartitionHandle) : Work UploadPlan := do
  let candidates ← Source.candidates pipeline.assetsDir pipeline.remapper handle.partition
  let pending := handle.record.pendingPairs candidates
  let groups ← Work.check (pipeline.groupsOf pending) PipelineFault.core
  pure ⟨pending.length, groups⟩

/-- Loads all pairs of a group, then has them stored. -/
def storeGroup (group : List FilePair) : Work (List UploadedPair) := do
  let prepared ← group.mapM Source.load
  Work.expect (Site.storePairs prepared) PipelineFault.storage

def recordPairs (remapper : Remapper) (record : Record) :
    List UploadedPair → Except Fault Record
  | [] => .ok record
  | pair :: rest =>
    match remapper.locate pair.key with
    | .error fault => .error fault
    | .ok (_, key) =>
      match record.recordUpload key pair.link pair.manifest.name with
      | (.error fault, _) => .error fault
      | (.ok (), record) => recordPairs remapper record rest

def uploadGroup (pipeline : Pipeline) (handle : PartitionHandle) (batch : Nat)
    (group : List FilePair) : Work (UploadStep × Record) := do
  let uploaded ← storeGroup group
  let record ← Work.check (recordPairs pipeline.remapper handle.record uploaded)
    PipelineFault.core
  pipeline.persist { handle with record }
  pure (⟨batch, uploaded⟩, record)

/-- Uploads groups, numbered from `batch` on, up to the first that fails. -/
def uploadGroups (pipeline : Pipeline) (handle : PartitionHandle) (batch : Nat) :
    List (List FilePair) → Job Site UploadRun
  | [] => pure ⟨[], handle.record, none⟩
  | group :: rest => do
    match ← (pipeline.uploadGroup handle batch group).run with
    | .error fault => pure ⟨[], handle.record, some fault⟩
    | .ok (step, record) => do
      let run ← uploadGroups pipeline { handle with record } (batch + 1) rest
      pure { run with steps := step :: run.steps }

/-- Uploads what is pending. A provider failure ends the run early but is no error: what was
stored before it stays recorded. -/
def uploadHandle (pipeline : Pipeline) (handle : PartitionHandle) :
    Work (UploadSummary × PartitionHandle) := do
  let plan ← pipeline.plan handle
  let run ← pipeline.uploadGroups handle 0 plan.groups
  let summary : UploadSummary :=
    ⟨plan.pending, run.uploaded, run.steps.length, run.fault.isSome⟩
  match run.fault.filter PipelineFault.isFatal with
  | some fault => throw fault
  | none => pure (summary, { handle with record := run.record })

end Pipeline

end Cadastre
