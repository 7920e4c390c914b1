import Cadastre.Grid.Remapper
import Cadastre.Path
import Cadastre.Pipeline.Site
import Cadastre.Item.FilePair
import Std.Data.ExtTreeMap

/-!
The item files: images and metadata documents whose names are item indices. Files with other names
are passed over, and so is a half of a pair without the other.
-/

namespace Cadastre

namespace Source

/-- A file's name without its extension, and the extension if there is one. A leading point opens
no extension. -/
def splitName (name : String) : String × Option String :=
  let reversed := name.toList.reverse
  let extension := reversed.takeWhile (· ≠ '.')
  match reversed.dropWhile (· ≠ '.') with
  | [] => (name, none)
  | [_] => (name, none)
  | _ :: stem => (.ofList stem.reverse, some (.ofList extension.reverse))

/-- The item that a file name's stem of digits names. -/
def stemIndex? (stem : String) : Option GlobalIndex :=
  if !stem.isEmpty && stem.toList.all Char.isDigit then
    Text.readUInt64? (Item.normalizeIndex stem)
  else none

/-- The half of a pair that an extension tells, in letters of any case. -/
def kindOf? (extension : String) : Option ContentKind :=
  let letters := extension.toList.map Char.toLower
  if letters = ContentKind.image.extension.toList then some .image
  else if letters = ContentKind.metadata.extension.toList then some .metadata
  else none

/-- The item and the half that a file name stands for. -/
def classify? (name : String) : Option (GlobalIndex × ContentKind) :=
  match splitName name with
  | (_, none) => none
  | (stem, some extension) =>
    match stemIndex? stem, kindOf? extension with
    | some index, some kind => some (index, kind)
    | _, _ => none

structure Halves where
  image : Option DirectoryEntry := none
  metadata : Option DirectoryEntry := none
  deriving DecidableEq, Repr

def Halves.put (halves : Halves) (entry : DirectoryEntry) : ContentKind → Halves
  | .image => { halves with image := some entry }
  | .metadata => { halves with metadata := some entry }

abbrev Found := Std.ExtTreeMap GlobalIndex Halves

def note (found : Found) (entry : DirectoryEntry) : Found :=
  match classify? entry.name with
  | none => found
  | some (index, kind) => found.insert index ((found[index]?.getD {}).put entry kind)

def Halves.pair? (dir : String) (index : GlobalIndex) (halves : Halves) : Option FilePair :=
  match halves.image, halves.metadata with
  | some image, some metadata =>
    some ⟨index, Path.join dir image.name, Path.join dir metadata.name, image.size + metadata.size⟩
  | _, _ => none

def pairs (dir : String) (entries : List DirectoryEntry) : List FilePair :=
  (entries.foldl note ∅).toList.filterMap fun (index, halves) => halves.pair? dir index

def scan (dir : String) : Work (List FilePair) := do
  let entries ← Work.expect Site.listAssets (PipelineFault.source dir)
  pure (pairs dir entries)

/-- Of the pairs, those of one partition. Pairs outside the grid belong to none. -/
def inPartition (remapper : Remapper) (partition : Partition) :
    List FilePair → Except Fault (List FilePair)
  | [] => .ok []
  | pair :: rest =>
    if remapper.layout.totalCells ≤ pair.key then inPartition remapper partition rest
    else
      match remapper.partitionOf pair.key with
      | .error fault => .error fault
      | .ok found =>
        if found = partition then (inPartition remapper partition rest).map (pair :: ·)
        else inPartition remapper partition rest

def candidates (dir : String) (remapper : Remapper) (partition : Partition) :
    Work (List FilePair) := do
  let pairs ← scan dir
  Work.check (inPartition remapper partition pairs) PipelineFault.core

/-- The manifest that the bytes hold, if it is that of the pair. -/
def readManifest (pair : FilePair) (bytes : Bytes) : Except Fault Manifest := do
  let manifest ← Manifest.read bytes
  let named ← manifest.globalIndex
  if named = pair.key then .ok manifest
  else .error (ManifestFault.misfiled pair.metadata named pair.key).fault

def manifest (pair : FilePair) : Work Manifest := do
  let bytes ← Work.expect (Site.readAsset pair.metadata) (PipelineFault.source pair.metadata)
  Work.check (readManifest pair bytes) PipelineFault.core

def load (pair : FilePair) : Work PreparedPair := do
  let image ← Work.expect (Site.readAsset pair.image) (PipelineFault.source pair.image)
  let manifest ← manifest pair
  pure ⟨pair.key, image, manifest⟩

end Source

end Cadastre
