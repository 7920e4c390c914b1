import Cadastre.Item.RecordFile
import Cadastre.Pipeline.Publish

/-!
What the pipeline found and did, as JSON for other programs to read.
-/

namespace Cadastre

open Json

def FilePair.toJson (pair : FilePair) : Json :=
  .object [("key", Json.nat pair.key.toNat), ("image", .string pair.image),
    ("metadata", .string pair.metadata), ("size", Json.nat pair.size.toNat)]

/-- A stored pair with the text of its published manifest. -/
def UploadedPair.toJson (pair : UploadedPair) : Json :=
  .object [("key", Json.nat pair.key.toNat), ("image", .string pair.image),
    ("link", .string pair.link), ("manifest", .string pair.manifest.text)]

def StateCounts.toJson (counts : StateCounts) : Json :=
  .object [("pending", Json.nat counts.pending), ("uploaded", Json.nat counts.uploaded),
    ("on_chain", Json.nat counts.onChain), ("total", Json.nat counts.total)]

def UploadPlan.toJson (plan : UploadPlan) : Json :=
  .object [("pending", Json.nat plan.pending),
    ("groups", .array (plan.groups.map fun group =>
      .array (group.map fun pair => Json.nat pair.key.toNat)))]

def UploadSummary.toJson (summary : UploadSummary) : Json :=
  .object [("pending", Json.nat summary.pending), ("uploaded", Json.nat summary.uploaded),
    ("batches", Json.nat summary.batches), ("interrupted", .bool summary.interrupted)]

def UploadStep.toJson (step : UploadStep) : Json :=
  let each (part : UploadedPair → Json) : Json := .array (step.uploaded.map part)
  .object [("batch", Json.nat step.batch), ("keys", each fun pair => Json.nat pair.key.toNat),
    ("locators", each fun pair => .string pair.link),
    ("images", each fun pair => .string pair.manifest.image)]

/-- The windows of a report with their ranges, and how many ended in which way. -/
def SyncReport.overview (report : SyncReport) : Members :=
  [("windows", .array (report.windows.map WindowReport.toJson)),
    ("display", .array (report.windows.map fun window => .string window.range)),
    ("written", Json.nat report.written), ("skipped", Json.nat report.skipped),
    ("not_ready", Json.nat report.notReady), ("failed", Json.nat report.failed),
    ("complete", .bool report.isComplete)]

def PublishReport.members (report : PublishReport) : Members :=
  [("upload", report.upload.toJson), ("sync", .object report.sync.overview)]

def PartitionStatus.toJson (status : PartitionStatus) : Json :=
  .object [("partition", .string status.partition.tag), ("on_disk", Json.nat status.onDisk),
    ("counts", .array ([status.counts.pending, status.counts.uploaded,
      status.counts.onChain].map Json.nat)),
    ("program", (status.program.map Program.toJson).getD .null)]

end Cadastre
