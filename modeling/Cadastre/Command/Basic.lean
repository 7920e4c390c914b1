import Cadastre.Config.Load
import Cadastre.Grid.Layout
import Cadastre.Pipeline.Fault

/-!
Commands, how they name a partition, and what makes one fail.
-/

namespace Cadastre

/-- How a command names a partition: by number, which counts first, or by row and column. -/
structure Selection where
  row : Option UInt32 := none
  col : Option UInt32 := none
  number : Option UInt32 := none
  deriving DecidableEq, Repr

inductive Command where
  | upload (selection : Selection)
  | sync (selection : Selection) (json : Bool)
  | publish (selection : Selection) (json : Bool)
  /-- Progress of the selected partition, or of every partition in the cache. -/
  | status (selection : Selection)
  /-- Turns a walk over a partition's cells into a permutation table. -/
  | generatePermutation (path : String) (width : Option UInt32) (output : String)
  deriving DecidableEq, Repr

inductive Activity where
  | upload
  | sync
  | publish
  deriving DecidableEq, Repr

def Activity.name : Activity → String
  | .upload => "upload"
  | .sync => "sync"
  | .publish => "publish"

inductive CommandFault where
  | settings (fault : Config.LoadFault)
  | noSelection
  /-- A number cannot be divided among rows that count as having no partitions. -/
  | zeroRow
  | outside (partition : Partition) (layout : Layout)
  | installation (fault : PipelineFault)
  | failed (activity : Activity) (partition : Partition) (fault : PipelineFault)
  | interrupted (partition : Partition)
  | windows (count : Nat) (partition : Partition)
  | cache (fault : PipelineFault)
  | status (fault : PipelineFault)
  | walkFile (path reason : String)
  | walk (path : String) (fault : Fault)
  | outputDirectory (reason : String)
  | output (path reason : String)

namespace CommandFault

/-- What happened, from the outermost cause to the innermost. -/
def causes : CommandFault → List String
  | settings .torn => ["an escape in a variable has its place within a character"]
  | settings .unreadable => ["failed to load configuration"]
  | settings (.invalid fault) => ["invalid configuration", fault.message]
  | noSelection => ["select a partition with --neighborhood or --row and --col"]
  | zeroRow => ["attempt to divide by zero"]
  | outside partition layout =>
    [s!"partition {partition.tag} is outside the " ++
      s!"{layout.partitionsPerCol}x{layout.partitionsPerRow} partition grid"]
  | installation fault => ["failed to initialize pipeline", fault.message]
  | failed activity partition fault =>
    [s!"{activity.name} of partition {partition.tag} failed", fault.message]
  | interrupted partition =>
    [s!"upload of partition {partition.tag} was interrupted; re-run to resume"]
  | windows count partition =>
    [s!"{count} registry window(s) of partition {partition.tag} failed; re-run sync to retry"]
  | cache fault => ["failed to read progress cache", fault.message]
  | status fault => [fault.message]
  | walkFile path reason => [s!"failed to read path file {path}", reason]
  | walk path fault => [s!"invalid path file {path}", fault.message]
  | outputDirectory reason => [reason]
  | output path reason => [s!"failed to write {path}", reason]

def exitCode : CommandFault → UInt32
  | settings .torn => 101
  | zeroRow => 101
  | _ => 1

end CommandFault

namespace Selection

def isSet (selection : Selection) : Bool :=
  selection.number.isSome || selection.row.isSome

def named (selection : Selection) (layout : Layout) : Except CommandFault Partition :=
  match selection.number, selection.row, selection.col with
  | some number, _, _ =>
    if layout.partitionsPerRow = 0 then .error .zeroRow
    else .ok (.ofOrdinal number layout.partitionsPerRow)
  | none, some row, some col => .ok ⟨row, col⟩
  | _, _, _ => .error .noSelection

/-- The partition that is meant, which has to be one of the grid. -/
def resolve (selection : Selection) (layout : Layout) : Except CommandFault Partition := do
  let partition ← selection.named layout
  if layout.contains partition then .ok partition else .error (.outside partition layout)

end Selection

end Cadastre
