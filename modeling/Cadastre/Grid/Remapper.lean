import Cadastre.Grid.Layout
import Cadastre.Grid.Permutation

/-!
The correspondence between cells of the grid and slots of partitions.
-/

namespace Cadastre

/-- A sound layout with a permutation of the cells of each of its partitions. -/
structure Remapper where
  layout : Layout
  permutation : Permutation
  sound : layout.Sound
  covers : permutation.size = layout.cellsPerPartition.toNat

namespace Remapper

def create (layout : Layout) (permutation : Permutation) : Except Fault Remapper :=
  match unfit : layout.fault? with
  | some fault => .error (.invalidLayout fault.message)
  | none =>
    if covers : permutation.size = layout.cellsPerPartition.toNat then
      .ok ⟨layout, permutation, (layout.fault?_eq_none_iff).mp unfit, covers⟩
    else
      .error (.invalidPermutation
        s!"table has {permutation.size} entries, partition has {layout.cellsPerPartition} cells")

def withIdentity (layout : Layout) : Except Fault Remapper :=
  match layout.fault? with
  | some fault => .error (.invalidLayout fault.message)
  | none => create layout (.identity layout.cellsPerPartition)

/-- The partition of a cell and the cell's key in it. -/
def locate (remapper : Remapper) (index : GlobalIndex) : Except Fault (Partition × LocalKey) :=
  let layout := remapper.layout
  let total := layout.totalCells
  if total ≤ index then .error (.indexOutOfRange index total)
  else
    let width := layout.partitionWidth.toUInt64
    let height := layout.partitionHeight.toUInt64
    let row := index / layout.gridWidth
    let col := index % layout.gridWidth
    let position := (row % height * width + col % width).toUInt32
    match remapper.permutation.keyOf? position with
    | some key => .ok (⟨(row / height).toUInt32, (col / width).toUInt32⟩, key)
    | none => .error (.invalidPermutation s!"no key for position {position}")

def partitionOf (remapper : Remapper) (index : GlobalIndex) : Except Fault Partition :=
  (remapper.locate index).map Prod.fst

def globalIndex (remapper : Remapper) (partition : Partition) (key : LocalKey) :
    Except Fault GlobalIndex :=
  let layout := remapper.layout
  if !layout.contains partition then .error (.invalidPartition partition.tag)
  else
    match remapper.permutation.positionOf? key with
    | none => .error (.invalidLocalKey key layout.cellsPerPartition)
    | some position =>
      let width := layout.partitionWidth.toUInt64
      let height := layout.partitionHeight.toUInt64
      let row := partition.row.toUInt64 * height + position.toUInt64 / width
      let col := partition.col.toUInt64 * width + position.toUInt64 % width
      .ok (row * layout.gridWidth + col)

def partitionIndices (remapper : Remapper) (partition : Partition) :
    Except Fault (List GlobalIndex) :=
  let layout := remapper.layout
  if !layout.contains partition then .error (.invalidPartition partition.tag)
  else
    let firstRow := partition.row.toUInt64 * layout.partitionHeight.toUInt64
    let firstCol := partition.col.toUInt64 * layout.partitionWidth.toUInt64
    .ok ((List.range layout.partitionHeight.toNat).flatMap fun row =>
      (List.range layout.partitionWidth.toNat).map fun col =>
        (firstRow + UInt64.ofNat row) * layout.gridWidth + (firstCol + UInt64.ofNat col))

end Remapper

end Cadastre
