import Cadastre.Proofs.Grid.Bijection

/-!
The cells of one partition, listed row by row. They are the cells that the remapper finds in that
partition, and their slots are all the slots of the partition.
-/

namespace Cadastre

theorem range_rows {α : Type} (height width : Nat) (cell : Nat → α) :
    ((List.range height).flatMap fun row =>
      (List.range width).map fun col => cell (row * width + col))
      = (List.range (height * width)).map cell := by
  induction height with
  | zero => simp
  | succ height ih =>
      rw [List.range_succ, List.flatMap_append, ih, Nat.succ_mul, List.range_add, List.map_append,
        List.map_map]
      simp [Function.comp_def]

namespace Remapper

variable {remapper : Remapper} {layout : Layout} {index : GlobalIndex} {partition : Partition}

theorem partitionOf_eq_ok_iff : remapper.partitionOf index = .ok partition ↔
    ∃ key, remapper.locate index = .ok (partition, key) := by
  unfold partitionOf
  cases located : remapper.locate index with
  | error fault => simp [Except.map]
  | ok place =>
      obtain ⟨found, key⟩ := place
      simp only [Except.map, Except.ok.injEq, Prod.mk.injEq]
      constructor
      · rintro rfl
        exact ⟨key, rfl, rfl⟩
      · rintro ⟨_, same, _⟩
        exact same

theorem cellOf_strictMono {position other : Nat} (sound : layout.Sound) (numbered : layout.Numbered)
    (inside : layout.contains partition = true) (before : position < other) :
    cellOf layout partition position < cellOf layout partition other := by
  have width := col_of_slot_lt sound numbered position inside
  rw [cellOf, cellOf]
  have rows : position / layout.partitionWidth.toNat ≤ other / layout.partitionWidth.toNat :=
    Nat.div_le_div_right before.le
  rcases rows.lt_or_eq with above | same
  · -- The row of the first ends before that of the other begins.
    calc (partition.row.toNat * layout.partitionHeight.toNat
            + position / layout.partitionWidth.toNat) * layout.gridWidth.toNat
          + (partition.col.toNat * layout.partitionWidth.toNat
            + position % layout.partitionWidth.toNat)
        < (partition.row.toNat * layout.partitionHeight.toNat
            + position / layout.partitionWidth.toNat + 1) * layout.gridWidth.toNat := by
          rw [Nat.succ_mul]
          omega
      _ ≤ (partition.row.toNat * layout.partitionHeight.toNat
            + other / layout.partitionWidth.toNat) * layout.gridWidth.toNat :=
          Nat.mul_le_mul_right _ (by omega)
      _ ≤ _ := Nat.le_add_right _ _
  · have first := Nat.div_add_mod position layout.partitionWidth.toNat
    have second := Nat.div_add_mod other layout.partitionWidth.toNat
    rw [← same] at second ⊢
    omega

theorem toNat_ofNat_of_lt_part {part : UInt32} {number : Nat} (below : number < part.toNat) :
    (UInt64.ofNat number).toNat = number :=
  UInt64.toNat_ofNat_of_lt' ((below.trans part.toNat_lt).trans (by decide))

theorem cell_of_row_col (sound : layout.Sound) (numbered : layout.Numbered)
    (inside : layout.contains partition = true) {row col : Nat}
    (above : row < layout.partitionHeight.toNat) (left : col < layout.partitionWidth.toNat) :
    (partition.row.toUInt64 * layout.partitionHeight.toUInt64 + UInt64.ofNat row)
        * layout.gridWidth
      + (partition.col.toUInt64 * layout.partitionWidth.toUInt64 + UInt64.ofNat col)
      = UInt64.ofNat (cellOf layout partition (row * layout.partitionWidth.toNat + col)) := by
  have below : row * layout.partitionWidth.toNat + col
      < layout.partitionWidth.toNat * layout.partitionHeight.toNat := by
    apply tile_lt (Nat.dvd_mul_right _ _) _ left
    rw [Nat.mul_div_cancel_left _ sound.width_pos]
    exact above
  have slot : (UInt32.ofNat (row * layout.partitionWidth.toNat + col)).toNat
      = row * layout.partitionWidth.toNat + col :=
    UInt32.toNat_ofNat_of_lt' (below.trans sound.2.2)
  have exact := (cell_exact sound numbered inside (by rw [slot]; exact below)).2.2.2.2.2.2
  have down : UInt64.ofNat row = (UInt32.ofNat (row * layout.partitionWidth.toNat + col)).toUInt64
      / layout.partitionWidth.toUInt64 := by
    apply UInt64.toNat_inj.mp
    rw [UInt64.toNat_div, UInt32.toNat_toUInt64, UInt32.toNat_toUInt64, slot, tile_div left,
      toNat_ofNat_of_lt_part above]
  have along : UInt64.ofNat col = (UInt32.ofNat (row * layout.partitionWidth.toNat + col)).toUInt64
      % layout.partitionWidth.toUInt64 := by
    apply UInt64.toNat_inj.mp
    rw [UInt64.toNat_mod, UInt32.toNat_toUInt64, UInt32.toNat_toUInt64, slot, tile_mod left,
      toNat_ofNat_of_lt_part left]
  rw [slot, ← down, ← along] at exact
  rw [← exact, UInt64.ofNat_toNat]

theorem partitionIndices_of_contains (numbered : remapper.layout.Numbered)
    (inside : remapper.layout.contains partition = true) :
    remapper.partitionIndices partition = .ok ((List.range remapper.permutation.size).map
      fun position => UInt64.ofNat (cellOf remapper.layout partition position)) := by
  simp only [partitionIndices, inside, Bool.not_true, Bool.false_eq_true, ↓reduceIte]
  rw [remapper.size_eq, Nat.mul_comm, ← range_rows]
  congr 1
  apply List.flatMap_congr
  intro row above
  apply List.map_congr_left
  intro col left
  exact cell_of_row_col remapper.sound numbered inside (List.mem_range.mp above)
    (List.mem_range.mp left)

theorem toNat_cell (remapper : Remapper) (numbered : remapper.layout.Numbered)
    (inside : remapper.layout.contains partition = true) {position : Nat}
    (below : position < remapper.permutation.size) :
    (UInt64.ofNat (cellOf remapper.layout partition position)).toNat
      = cellOf remapper.layout partition position := by
  apply UInt64.toNat_ofNat_of_lt'
  rw [remapper.size_eq] at below
  exact (cellOf_lt remapper.sound numbered inside below).trans numbered.cells

theorem locate_cell (numbered : remapper.layout.Numbered)
    (inside : remapper.layout.contains partition = true) {position : Nat}
    (below : position < remapper.permutation.forward.size) :
    remapper.locate (UInt64.ofNat (cellOf remapper.layout partition position))
      = .ok (partition, remapper.permutation.forward[position]) := by
  have exact := remapper.toNat_cell numbered inside below
  have slot : position
      < remapper.layout.partitionWidth.toNat * remapper.layout.partitionHeight.toNat := by
    rw [← remapper.size_eq]
    exact below
  obtain ⟨row, col, raw⟩ := rawPosition_cellOf remapper.sound numbered inside slot
  rw [locate_eq_ok_iff numbered, exact]
  refine ⟨cellOf_lt remapper.sound numbered inside slot, row.symm, col.symm, ?_⟩
  rw [raw]
  exact Array.getElem?_eq_getElem below

theorem exists_position_of_partitionOf (numbered : remapper.layout.Numbered)
    (found : remapper.partitionOf index = .ok partition) :
    ∃ position < remapper.permutation.size,
      index.toNat = cellOf remapper.layout partition position := by
  obtain ⟨key, located⟩ := partitionOf_eq_ok_iff.mp found
  obtain ⟨_, row, col, _⟩ := (locate_eq_ok_iff numbered).mp located
  refine ⟨rawPosition remapper.layout index.toNat, ?_, ?_⟩
  · rw [remapper.size_eq]
    exact rawPosition_lt remapper.sound index.toNat
  · exact (cellOf_rawPosition remapper.sound row col).symm

/-- A partition of the grid lists its cells in ascending order, all of them and no others, and their
slots are all its slots, each once. Any other partition is refused. -/
theorem partitionIndices_exact (numbered : remapper.layout.Numbered) (partition : Partition) :
    (remapper.layout.contains partition = true → ∃ indices,
      remapper.partitionIndices partition = .ok indices ∧
      indices.Pairwise (· < ·) ∧
      indices.length = remapper.layout.cellsPerPartition.toNat ∧
      (∀ index, index ∈ indices ↔ remapper.partitionOf index = .ok partition) ∧
      ∃ keys : List LocalKey,
        indices.map remapper.locate = keys.map (fun key => .ok (partition, key)) ∧
        (keys.map UInt32.toNat).Perm (List.range remapper.layout.cellsPerPartition.toNat)) ∧
    (remapper.layout.contains partition = false →
      remapper.partitionIndices partition = .error (.invalidPartition partition.tag)) := by
  constructor
  · intro inside
    refine ⟨_, partitionIndices_of_contains numbered inside, ?_, ?_, ?_,
      remapper.permutation.forward.toList, ?_, ?_⟩
    · rw [List.pairwise_map]
      refine List.pairwise_lt_range.imp_of_mem fun {position other} first second before => ?_
      rw [UInt64.lt_iff_toNat_lt, remapper.toNat_cell numbered inside (List.mem_range.mp first),
        remapper.toNat_cell numbered inside (List.mem_range.mp second)]
      exact cellOf_strictMono remapper.sound numbered inside before
    · rw [List.length_map, List.length_range, remapper.covers]
    · intro index
      simp only [List.mem_map, List.mem_range]
      constructor
      · rintro ⟨position, below, rfl⟩
        exact partitionOf_eq_ok_iff.mpr ⟨_, locate_cell numbered inside below⟩
      · intro found
        obtain ⟨position, below, cell⟩ := exists_position_of_partitionOf numbered found
        exact ⟨position, below, by rw [← cell, UInt64.ofNat_toNat]⟩
    · apply List.ext_getElem
      · simp [Permutation.size]
      · intro position first second
        simp only [List.length_map, Array.length_toList] at second
        simp only [List.getElem_map, List.getElem_range, Array.getElem_toList]
        exact locate_cell numbered inside second
    · rw [← remapper.covers]
      exact remapper.permutation.forward_perm remapper.short
  · intro outside
    simp [partitionIndices, outside]

theorem last_of_six_listed : ∃ remapper : Remapper,
    remapper.layout = ⟨6, 4, 2, 2⟩ ∧ remapper.permutation.forward = #[2, 0, 3, 1] ∧
      remapper.layout.Numbered ∧ remapper.layout.contains ⟨1, 2⟩ = true ∧
      remapper.partitionIndices ⟨1, 2⟩ = .ok [16, 17, 22, 23] ∧
      (∀ index, index ∈ ([16, 17, 22, 23] : List GlobalIndex) ↔
        remapper.partitionOf index = .ok ⟨1, 2⟩) ∧
      remapper.layout.contains ⟨2, 0⟩ = false ∧
      remapper.partitionIndices ⟨2, 0⟩ = .error (.invalidPartition "[2,0]") := by
  let permutation : Permutation := ⟨#[2, 0, 3, 1], #[1, 3, 0, 2], by decide, by decide⟩
  let remapper : Remapper :=
    ⟨⟨6, 4, 2, 2⟩, permutation, ⟨by decide, by decide, by decide⟩, by decide⟩
  have numbered : remapper.layout.Numbered := ⟨by decide, by decide, by decide⟩
  have inside : remapper.layout.contains ⟨1, 2⟩ = true := by decide
  have outside : remapper.layout.contains ⟨2, 0⟩ = false := by decide
  have listed : remapper.partitionIndices ⟨1, 2⟩ = .ok [16, 17, 22, 23] := by decide
  obtain ⟨indices, same, _, _, found, _⟩ :=
    (partitionIndices_exact numbered ⟨1, 2⟩).1 inside
  rw [listed, Except.ok.injEq] at same
  rw [← same] at found
  exact ⟨remapper, rfl, rfl, numbered, inside, listed, found, outside,
    (partitionIndices_exact numbered ⟨2, 0⟩).2 outside⟩

end Remapper

end Cadastre
