import Cadastre.Command.Transcript
import Cadastre.Grid.Walk
import Cadastre.Pipeline.Workplace

/-!
Carrying out commands. Main definition: `Command.run`, the job of a command on a machine.
-/

namespace Cadastre

namespace Command

/-- Sets up the pipeline that the settings describe, and works with it. -/
def withInstallation (config : Config) (work : Installation → Job Machine Transcript) :
    Job Machine Transcript := do
  match ← Installation.ofConfig config with
  | .error fault => pure (.failed (.installation fault))
  | .ok installation => work installation

def onPartition (config : Config) (selection : Selection)
    (work : Installation → Partition → Job Machine Transcript) : Job Machine Transcript :=
  match selection.resolve config.grid.layout with
  | .error fault => pure (.failed fault)
  | .ok partition => withInstallation config fun installation => work installation partition

def interruption? (partition : Partition) (summary : UploadSummary) : Option CommandFault :=
  if summary.interrupted then some (.interrupted partition) else none

def windowFault? (partition : Partition) (report : SyncReport) : Option CommandFault :=
  if 0 < report.failed then some (.windows report.failed partition) else none

def runUpload (installation : Installation) (partition : Partition) : Job Machine Transcript := do
  match ← installation.perform fun pipeline => pipeline.upload partition with
  | .error fault => pure (.failed (.failed .upload partition fault))
  | .ok summary => pure ⟨[summary.line partition], interruption? partition summary⟩

def runSync (json : Bool) (installation : Installation) (partition : Partition) :
    Job Machine Transcript := do
  match ← installation.perform fun pipeline => pipeline.sync partition with
  | .error fault => pure (.failed (.failed .sync partition fault))
  | .ok report => pure ⟨report.lines partition json, windowFault? partition report⟩

def runPublish (json : Bool) (installation : Installation) (partition : Partition) :
    Job Machine Transcript := do
  match ← installation.perform fun pipeline => pipeline.publish partition with
  | .error fault => pure (.failed (.failed .publish partition fault))
  | .ok report =>
    pure ⟨report.upload.line partition :: report.sync.lines partition json,
      (interruption? partition report.upload).or (windowFault? partition report.sync)⟩

/-- A row for each partition, up to the first one whose progress cannot be told. -/
def statusRows (installation : Installation) : List Partition → Job Machine Transcript
  | [] => pure {}
  | partition :: rest => do
    match ← installation.perform fun pipeline => pipeline.status partition with
    | .error fault => pure (.failed (.status fault))
    | .ok found => (·.after [StatusTable.statusRow found]) <$> statusRows installation rest

def statusTable (installation : Installation) (partitions : List Partition) :
    Job Machine Transcript :=
  if partitions.isEmpty then pure (.say s!"No partitions in {installation.place.cachePath}.")
  else (·.after StatusTable.header) <$> statusRows installation partitions

def showStatus (config : Config) (selection : Selection) (installation : Installation) :
    Job Machine Transcript := do
  if selection.isSet then
    match selection.resolve config.grid.layout with
    | .error fault => pure (.failed fault)
    | .ok partition => statusTable installation [partition]
  else
    match ← installation.perform fun pipeline => pipeline.cache.listPartitions with
    | .error fault => pure (.failed (.cache fault))
    | .ok partitions => statusTable installation partitions

/-- Writes a table to a file, in a directory that is created if need be. -/
def writeTable (output : String) (permutation : Permutation) : Job Machine Transcript := do
  let directory ← match (Path.parent? output).filter (!·.isEmpty) with
    | some directory => (·.map fun _ => ()) <$> Machine.createDirectory directory
    | none => pure (.ok ())
  match directory with
  | .error fault => pure (.failed (.outputDirectory fault.reason))
  | .ok () =>
    match ← Machine.writeFile output (Text.utf8 permutation.toJson.write) with
    | .error fault => pure (.failed (.output output fault.reason))
    | .ok () => pure (.say s!"Wrote {permutation.size} entries to {output}")

/-- The reason given when a file is to be text and is none. -/
def noText : String := "stream did not contain valid UTF-8"

def readText (path : String) : Job Machine (Except String String) := do
  let contents ← Machine.readFile path
  pure do
    let bytes ← contents.mapError SystemFault.reason
    (Text.fromUtf8? bytes).elim (.error noText) .ok

def tabulate (path : String) (width : UInt32) (output : String) :
    Job Machine Transcript := do
  match ← readText path with
  | .error reason => pure (.failed (.walkFile path reason))
  | .ok text =>
    match Permutation.ofWalkText text width with
    | .error fault => pure (.failed (.walk path fault))
    | .ok permutation => writeTable output permutation

def runWith (config : Config) : Command → Job Machine Transcript
  | .upload selection => onPartition config selection runUpload
  | .sync selection json => onPartition config selection (runSync json)
  | .publish selection json => onPartition config selection (runPublish json)
  | .status selection => withInstallation config (showStatus config selection)
  | .generatePermutation path width output =>
    tabulate path (width.getD config.grid.partitionWidth) output

def run (settingsFile : String) (environment : Environment) (command : Command) :
    Job Machine Transcript := do
  match ← Config.load settingsFile environment with
  | .error fault => pure (.failed (.settings fault))
  | .ok config => command.runWith config

end Command

end Cadastre
