import Cadastre.Grid.Partition

/-!
The dimensions of the grid and of its partitions. A layout is sound if its partitions tile the
grid and each of them has fewer than `2 ^ 32` cells.
-/

namespace Cadastre

structure Layout where
  gridWidth : UInt64
  gridHeight : UInt64
  partitionWidth : UInt32
  partitionHeight : UInt32
  deriving DecidableEq, Repr

inductive LayoutFault where
  | zeroDimension
  | untiled (layout : Layout)
  | tooManyCells

namespace LayoutFault

def message : LayoutFault → String
  | zeroDimension => "dimensions must be non-zero"
  | untiled layout =>
    s!"partition {layout.partitionWidth}x{layout.partitionHeight} does not tile grid " ++
      s!"{layout.gridWidth}x{layout.gridHeight}"
  | tooManyCells => "partition has too many cells"

end LayoutFault

namespace Layout

def HasZero (layout : Layout) : Prop :=
  layout.gridWidth = 0 ∨ layout.gridHeight = 0 ∨ layout.partitionWidth = 0 ∨
    layout.partitionHeight = 0

instance (layout : Layout) : Decidable layout.HasZero :=
  inferInstanceAs (Decidable (_ ∨ _ ∨ _ ∨ _))

/-- Rows and columns of partitions fill the grid exactly. -/
def Tiles (layout : Layout) : Prop :=
  layout.gridWidth % layout.partitionWidth.toUInt64 = 0 ∧
    layout.gridHeight % layout.partitionHeight.toUInt64 = 0

instance (layout : Layout) : Decidable layout.Tiles :=
  inferInstanceAs (Decidable (_ ∧ _))

/-- A local key can number every cell of a partition. -/
def FitsKeys (layout : Layout) : Prop :=
  layout.partitionWidth.toNat * layout.partitionHeight.toNat < UInt32.size

instance (layout : Layout) : Decidable layout.FitsKeys :=
  inferInstanceAs (Decidable (_ < _))

def fault? (layout : Layout) : Option LayoutFault :=
  if layout.HasZero then some .zeroDimension
  else if ¬ layout.Tiles then some (.untiled layout)
  else if ¬ layout.FitsKeys then some .tooManyCells
  else none

def Sound (layout : Layout) : Prop :=
  ¬ layout.HasZero ∧ layout.Tiles ∧ layout.FitsKeys

theorem fault?_eq_none_iff (layout : Layout) : layout.fault? = none ↔ layout.Sound := by
  unfold fault? Sound
  by_cases zero : layout.HasZero <;> by_cases tiles : layout.Tiles <;>
    by_cases fits : layout.FitsKeys <;> simp [zero, tiles, fits]

def check (layout : Layout) : Except Fault Unit :=
  match layout.fault? with
  | none => .ok ()
  | some fault => .error (.invalidLayout fault.message)

def totalCells (layout : Layout) : UInt64 := layout.gridWidth * layout.gridHeight

def cellsPerPartition (layout : Layout) : UInt32 :=
  layout.partitionWidth * layout.partitionHeight

def partitionsPerRow (layout : Layout) : UInt32 :=
  (layout.gridWidth / layout.partitionWidth.toUInt64).toUInt32

def partitionsPerCol (layout : Layout) : UInt32 :=
  (layout.gridHeight / layout.partitionHeight.toUInt64).toUInt32

def partitionCount (layout : Layout) : UInt32 :=
  layout.partitionsPerRow * layout.partitionsPerCol

def contains (layout : Layout) (partition : Partition) : Bool :=
  partition.row < layout.partitionsPerCol && partition.col < layout.partitionsPerRow

end Layout

end Cadastre
