import Cadastre.Grid.Remapper
import Cadastre.Proofs.Grid.Permutation
import Mathlib.Algebra.Order.Group.Nat
import Mathlib.Data.Nat.Basic

/-!
Where cells lie. In a layout whose cells, rows and columns can all be numbered, no arithmetic
overflows, and cells of one partition with one key are one cell.
-/

namespace Cadastre

/-- Whether the machine's numbers suffice for the cells and for the rows and columns of
partitions. -/
structure Layout.Numbered (layout : Layout) : Prop where
  cells : layout.gridWidth.toNat * layout.gridHeight.toNat < UInt64.size
  columns : layout.gridWidth.toNat / layout.partitionWidth.toNat < UInt32.size
  rows : layout.gridHeight.toNat / layout.partitionHeight.toNat < UInt32.size

namespace Layout

variable {layout : Layout}

theorem Sound.width_pos (sound : layout.Sound) : 0 < layout.partitionWidth.toNat := by
  have nonzero : layout.partitionWidth ≠ 0 := fun zero => sound.1 (Or.inr (Or.inr (Or.inl zero)))
  exact Nat.pos_of_ne_zero fun zero => nonzero (UInt32.toNat_inj.mp (by rw [zero]; rfl))

theorem Sound.height_pos (sound : layout.Sound) : 0 < layout.partitionHeight.toNat := by
  have nonzero : layout.partitionHeight ≠ 0 := fun zero => sound.1 (Or.inr (Or.inr (Or.inr zero)))
  exact Nat.pos_of_ne_zero fun zero => nonzero (UInt32.toNat_inj.mp (by rw [zero]; rfl))

theorem Sound.width_dvd (sound : layout.Sound) :
    layout.partitionWidth.toNat ∣ layout.gridWidth.toNat := by
  have remainder := congrArg UInt64.toNat sound.2.1.1
  rw [UInt64.toNat_mod, UInt32.toNat_toUInt64] at remainder
  exact Nat.dvd_of_mod_eq_zero remainder

theorem Sound.height_dvd (sound : layout.Sound) :
    layout.partitionHeight.toNat ∣ layout.gridHeight.toNat := by
  have remainder := congrArg UInt64.toNat sound.2.1.2
  rw [UInt64.toNat_mod, UInt32.toNat_toUInt64] at remainder
  exact Nat.dvd_of_mod_eq_zero remainder

end Layout

namespace Remapper

variable {remapper : Remapper}

def rawPosition (layout : Layout) (index : Nat) : Nat :=
  index / layout.gridWidth.toNat % layout.partitionHeight.toNat * layout.partitionWidth.toNat
    + index % layout.gridWidth.toNat % layout.partitionWidth.toNat

theorem rawPosition_lt {layout : Layout} (sound : layout.Sound) (index : Nat) :
    rawPosition layout index
      < layout.partitionWidth.toNat * layout.partitionHeight.toNat := by
  have row := Nat.mod_lt (index / layout.gridWidth.toNat) sound.height_pos
  have col := Nat.mod_lt (index % layout.gridWidth.toNat) sound.width_pos
  rw [rawPosition]
  generalize index / layout.gridWidth.toNat % layout.partitionHeight.toNat = r at *
  generalize index % layout.gridWidth.toNat % layout.partitionWidth.toNat = c at *
  calc r * layout.partitionWidth.toNat + c
      < r * layout.partitionWidth.toNat + layout.partitionWidth.toNat := by omega
    _ = (r + 1) * layout.partitionWidth.toNat := by rw [Nat.succ_mul]
    _ ≤ layout.partitionHeight.toNat * layout.partitionWidth.toNat :=
      Nat.mul_le_mul_right _ row
    _ = layout.partitionWidth.toNat * layout.partitionHeight.toNat := Nat.mul_comm _ _

theorem toNat_position {layout : Layout} (sound : layout.Sound) (index : UInt64) :
    ((index / layout.gridWidth % layout.partitionHeight.toUInt64
      * layout.partitionWidth.toUInt64 + index % layout.gridWidth
        % layout.partitionWidth.toUInt64).toUInt32).toNat = rawPosition layout index.toNat := by
  have below := rawPosition_lt sound index.toNat
  have fits : layout.partitionWidth.toNat * layout.partitionHeight.toNat < 2 ^ 32 := sound.2.2
  simp only [rawPosition] at below ⊢
  simp only [UInt64.toNat_toUInt32, UInt64.toNat_add, UInt64.toNat_mul, UInt64.toNat_mod,
    UInt64.toNat_div, UInt32.toNat_toUInt64]
  generalize index.toNat / layout.gridWidth.toNat % layout.partitionHeight.toNat
    * layout.partitionWidth.toNat = high at *
  generalize index.toNat % layout.gridWidth.toNat % layout.partitionWidth.toNat = low at *
  omega

theorem locate_spec (numbered : remapper.layout.Numbered) {index : GlobalIndex}
    {partition : Partition} {key : LocalKey}
    (located : remapper.locate index = .ok (partition, key)) :
    partition.row.toNat = index.toNat / remapper.layout.gridWidth.toNat
        / remapper.layout.partitionHeight.toNat ∧
      partition.col.toNat = index.toNat % remapper.layout.gridWidth.toNat
        / remapper.layout.partitionWidth.toNat ∧
      remapper.permutation.forward[rawPosition remapper.layout index.toNat]? = some key := by
  obtain ⟨layout, permutation, sound, covers⟩ := remapper
  have total : layout.totalCells.toNat = layout.gridWidth.toNat * layout.gridHeight.toNat := by
    rw [Layout.totalCells, UInt64.toNat_mul, Nat.mod_eq_of_lt numbered.cells]
  unfold locate at located
  dsimp only at located
  split at located
  · cases located
  · rename_i inside
    rw [UInt64.not_le, UInt64.lt_iff_toNat_lt, total] at inside
    split at located
    · rename_i found held
      cases located
      have wide : 0 < layout.gridWidth.toNat := Nat.pos_of_mul_pos_right (Nat.zero_lt_of_lt inside)
      have row : index.toNat / layout.gridWidth.toNat < layout.gridHeight.toNat :=
        Nat.div_lt_of_lt_mul inside
      have col : index.toNat % layout.gridWidth.toNat < layout.gridWidth.toNat :=
        Nat.mod_lt _ wide
      have rows := Nat.div_lt_div_of_lt_of_dvd sound.height_dvd row
      have cols := Nat.div_lt_div_of_lt_of_dvd sound.width_dvd col
      refine ⟨?_, ?_, ?_⟩
      · simp only [UInt64.toNat_toUInt32, UInt64.toNat_div, UInt32.toNat_toUInt64]
        exact Nat.mod_eq_of_lt (rows.trans numbered.rows)
      · simp only [UInt64.toNat_toUInt32, UInt64.toNat_div, UInt64.toNat_mod,
          UInt32.toNat_toUInt64]
        exact Nat.mod_eq_of_lt (cols.trans numbered.columns)
      · rw [Permutation.keyOf?, toNat_position sound] at held
        exact held
    · cases located

theorem place_unique {base high low otherHigh otherLow : Nat} (small : low < base)
    (otherSmall : otherLow < base) (same : high * base + low = otherHigh * base + otherLow) :
    high = otherHigh ∧ low = otherLow := by
  have positive := Nat.zero_lt_of_lt small
  have one := (Nat.div_mod_unique (a := high * base + low) (d := high) positive).mpr
    ⟨by rw [Nat.add_comm, Nat.mul_comm], small⟩
  have other := (Nat.div_mod_unique (a := otherHigh * base + otherLow) (d := otherHigh)
    positive).mpr ⟨by rw [Nat.add_comm, Nat.mul_comm], otherSmall⟩
  rw [same] at one
  exact ⟨one.1.symm.trans other.1, one.2.symm.trans other.2⟩

theorem locate_injective (numbered : remapper.layout.Numbered) {first second : GlobalIndex}
    {place : Partition × LocalKey} (one : remapper.locate first = .ok place)
    (other : remapper.locate second = .ok place) : first = second := by
  obtain ⟨partition, key⟩ := place
  obtain ⟨firstRow, firstCol, firstKey⟩ := locate_spec numbered one
  obtain ⟨secondRow, secondCol, secondKey⟩ := locate_spec numbered other
  have short : remapper.permutation.size < UInt32.size := by
    rw [remapper.covers]
    exact remapper.layout.cellsPerPartition.toNat_lt
  have position := remapper.permutation.forward_injective short firstKey secondKey
  have wide := remapper.sound.width_pos
  have firstLow := Nat.mod_lt (first.toNat % remapper.layout.gridWidth.toNat) wide
  have secondLow := Nat.mod_lt (second.toNat % remapper.layout.gridWidth.toNat) wide
  simp only [rawPosition] at position
  rw [firstRow] at secondRow
  rw [firstCol] at secondCol
  apply UInt64.toNat_inj.mp
  rw [← Nat.div_add_mod first.toNat remapper.layout.gridWidth.toNat,
    ← Nat.div_add_mod second.toNat remapper.layout.gridWidth.toNat,
    ← Nat.div_add_mod (first.toNat % remapper.layout.gridWidth.toNat)
      remapper.layout.partitionWidth.toNat,
    ← Nat.div_add_mod (second.toNat % remapper.layout.gridWidth.toNat)
      remapper.layout.partitionWidth.toNat,
    ← Nat.div_add_mod (first.toNat / remapper.layout.gridWidth.toNat)
      remapper.layout.partitionHeight.toNat,
    ← Nat.div_add_mod (second.toNat / remapper.layout.gridWidth.toNat)
      remapper.layout.partitionHeight.toNat]
  obtain ⟨highs, lows⟩ := place_unique firstLow secondLow position
  rw [highs, lows, secondRow, secondCol]

end Remapper

end Cadastre
