import Cadastre.Command.Basic
import Cadastre.Pipeline.Publish
import Cadastre.Json.Writer

/-!
What a command prints: its lines, in order, and the fault that ended it if one did.
-/

namespace Cadastre

structure Transcript where
  lines : List String := []
  fault : Option CommandFault := none

namespace Transcript

def failed (fault : CommandFault) : Transcript := { fault := some fault }

def say (line : String) : Transcript := { lines := [line] }

def exitCode (transcript : Transcript) : UInt32 :=
  transcript.fault.elim 0 CommandFault.exitCode

def after (lines : List String) (transcript : Transcript) : Transcript :=
  { transcript with lines := lines ++ transcript.lines }

end Transcript

def UploadSummary.line (summary : UploadSummary) (partition : Partition) : String :=
  s!"Partition {partition.tag}: {summary.pending} pending, {summary.uploaded} uploaded " ++
    s!"in {summary.batches} batch(es)"

def WindowReport.failureLine? (report : WindowReport) : Option String :=
  match report.outcome with
  | .failed reason => some s!"  window {report.range}: {reason}"
  | _ => none

/-- The counts and the failures, or the whole report as JSON. -/
def SyncReport.lines (report : SyncReport) (partition : Partition) (json : Bool) : List String :=
  if json then report.toJson.writePretty.splitOn "\n"
  else
    (s!"Partition {partition.tag}: {report.written} window(s) written, {report.skipped} skipped, " ++
      s!"{report.notReady} not ready, {report.failed} failed")
      :: report.windows.filterMap WindowReport.failureLine?

namespace StatusTable

def left (width : Nat) (text : String) : String :=
  text ++ .ofList (List.replicate (width - text.length) ' ')

def right (width : Nat) (text : String) : String :=
  .ofList (List.replicate (width - text.length) ' ') ++ text

def row (partition onDisk pending uploaded onChain registry : String) : String :=
  String.intercalate " "
    (left 12 partition :: [onDisk, pending, uploaded, onChain].map (right 8)) ++ "  " ++ registry

def header : List String :=
  [row "PARTITION" "ON DISK" "PENDING" "UPLOADED" "ON-CHAIN" "REGISTRY",
    .ofList (List.replicate 72 '-')]

def statusRow (status : PartitionStatus) : String :=
  row status.partition.tag (toString status.onDisk) (toString status.counts.pending)
    (toString status.counts.uploaded) (toString status.counts.onChain)
    ((status.program.map Program.registryLocator).getD "-")

end StatusTable

end Cadastre
