import Cadastre.Proofs.Grid.Exactness

/-!
The remapper as a bijection between the cells of the grid and the slots of its partitions.
-/

namespace Cadastre

namespace Remapper

variable {remapper : Remapper} {layout : Layout} {index : GlobalIndex} {partition : Partition}
  {key : LocalKey}

theorem locate_of_lt (inside : index < remapper.layout.totalCells) :
    ∃ place, remapper.locate index = .ok place := by
  have raw := rawPosition_lt remapper.sound index.toNat
  rw [← toNat_position remapper.sound index, ← remapper.size_eq,
    ← Permutation.isSome_keyOf?_iff] at raw
  obtain ⟨key, held⟩ := Option.isSome_iff_exists.mp raw
  unfold locate
  simp only [UInt64.not_le.mpr inside, ↓reduceIte, held]
  exact ⟨_, rfl⟩

theorem lt_of_locate {place : Partition × LocalKey} (located : remapper.locate index = .ok place) :
    index < remapper.layout.totalCells := by
  unfold locate at located
  dsimp only at located
  split at located
  · cases located
  · rename_i inside
    exact UInt64.not_le.mp inside

theorem locate_eq_ok_iff (numbered : remapper.layout.Numbered) :
    remapper.locate index = .ok (partition, key) ↔
      index.toNat < remapper.layout.gridWidth.toNat * remapper.layout.gridHeight.toNat ∧
        partition.row.toNat = index.toNat / remapper.layout.gridWidth.toNat
          / remapper.layout.partitionHeight.toNat ∧
        partition.col.toNat = index.toNat % remapper.layout.gridWidth.toNat
          / remapper.layout.partitionWidth.toNat ∧
        remapper.permutation.forward[rawPosition remapper.layout index.toNat]? = some key := by
  rw [← numbered.totalCells.2, ← UInt64.lt_iff_toNat_lt]
  constructor
  · intro located
    exact ⟨lt_of_locate located, locate_spec numbered located⟩
  · rintro ⟨inside, row, col, held⟩
    obtain ⟨⟨found, foundKey⟩, located⟩ := locate_of_lt inside
    obtain ⟨row', col', held'⟩ := locate_spec numbered located
    have rows : partition.row = found.row := UInt32.toNat_inj.mp (row.trans row'.symm)
    have cols : partition.col = found.col := UInt32.toNat_inj.mp (col.trans col'.symm)
    rw [held, Option.some.injEq] at held'
    rw [located, held']
    cases partition
    cases found
    cases rows
    cases cols
    rfl

theorem globalIndex_eq_ok_iff (numbered : remapper.layout.Numbered) :
    remapper.globalIndex partition key = .ok index ↔
      remapper.layout.contains partition = true ∧
        ∃ position, remapper.permutation.positionOf? key = some position ∧
          index.toNat = cellOf remapper.layout partition position.toNat := by
  unfold globalIndex
  cases inside : remapper.layout.contains partition with
  | false => simp [inside]
  | true =>
      cases held : remapper.permutation.positionOf? key with
      | none => simp [inside]
      | some position =>
          have exact := (cell_exact remapper.sound numbered inside
            (remapper.position_lt held)).2.2.2.2.2.2
          simp only [inside, Bool.not_true, Bool.false_eq_true, ↓reduceIte, Except.ok.injEq,
            true_and, Option.some.injEq, exists_eq_left']
          rw [← exact, UInt64.toNat_inj]
          exact eq_comm

theorem cellOf_rawPosition (sound : layout.Sound) {index : Nat}
    (row : partition.row.toNat
      = index / layout.gridWidth.toNat / layout.partitionHeight.toNat)
    (col : partition.col.toNat
      = index % layout.gridWidth.toNat / layout.partitionWidth.toNat) :
    cellOf layout partition (rawPosition layout index) = index := by
  have below : index % layout.gridWidth.toNat % layout.partitionWidth.toNat
      < layout.partitionWidth.toNat := Nat.mod_lt _ sound.width_pos
  rw [cellOf, rawPosition, tile_div below, tile_mod below, row, col, Nat.div_add_mod',
    Nat.div_add_mod', Nat.div_add_mod']

theorem rawPosition_cellOf (sound : layout.Sound) (numbered : layout.Numbered) {position : Nat}
    (inside : layout.contains partition = true)
    (below : position < layout.partitionWidth.toNat * layout.partitionHeight.toNat) :
    cellOf layout partition position / layout.gridWidth.toNat / layout.partitionHeight.toNat
        = partition.row.toNat ∧
      cellOf layout partition position % layout.gridWidth.toNat / layout.partitionWidth.toNat
        = partition.col.toNat ∧
      rawPosition layout (cellOf layout partition position) = position := by
  have col := col_of_slot_lt sound numbered position inside
  have down : position / layout.partitionWidth.toNat < layout.partitionHeight.toNat :=
    Nat.div_lt_of_lt_mul below
  have along : position % layout.partitionWidth.toNat < layout.partitionWidth.toNat :=
    Nat.mod_lt _ sound.width_pos
  refine ⟨?_, ?_, ?_⟩
  · rw [cellOf, tile_div col, tile_div down]
  · rw [cellOf, tile_mod col, tile_div along]
  · rw [rawPosition, cellOf, tile_div col, tile_mod col, tile_mod down, tile_mod along,
      Nat.div_add_mod']

theorem globalIndex_of_locate (numbered : remapper.layout.Numbered)
    (located : remapper.locate index = .ok (partition, key)) :
    remapper.layout.contains partition = true ∧ key < remapper.layout.cellsPerPartition ∧
      remapper.globalIndex partition key = .ok index := by
  obtain ⟨inside, row, col, held⟩ := (locate_eq_ok_iff numbered).mp located
  obtain ⟨rows, cols⟩ := remapper.quotients_lt inside
  have contained : remapper.layout.contains partition = true := by
    rw [numbered.contains_iff, row, col]
    exact ⟨rows, cols⟩
  have raw : rawPosition remapper.layout index.toNat < UInt32.size :=
    (rawPosition_lt remapper.sound index.toNat).trans remapper.sound.2.2
  have back : remapper.permutation.positionOf? key
      = some (UInt32.ofNat (rawPosition remapper.layout index.toNat)) := by
    rw [← Permutation.keyOf?_eq_some_iff remapper.short, Permutation.keyOf?,
      UInt32.toNat_ofNat_of_lt' raw, held]
  refine ⟨contained, ?_, ?_⟩
  · rw [UInt32.lt_iff_toNat_lt, ← remapper.covers, ← Permutation.isSome_positionOf?_iff, back]
    rfl
  · refine (globalIndex_eq_ok_iff numbered).mpr ⟨contained, _, back, ?_⟩
    rw [UInt32.toNat_ofNat_of_lt' raw, cellOf_rawPosition remapper.sound row col]

theorem locate_of_globalIndex (numbered : remapper.layout.Numbered)
    (indexed : remapper.globalIndex partition key = .ok index) :
    remapper.locate index = .ok (partition, key) := by
  obtain ⟨contained, position, held, cell⟩ := (globalIndex_eq_ok_iff numbered).mp indexed
  have below := remapper.position_lt held
  obtain ⟨row, col, raw⟩ := rawPosition_cellOf remapper.sound numbered contained below
  rw [locate_eq_ok_iff numbered, cell, row, col, raw]
  refine ⟨cellOf_lt remapper.sound numbered contained below, rfl, rfl, ?_⟩
  exact (Permutation.keyOf?_eq_some_iff remapper.short position key).mpr held

theorem exists_globalIndex_iff (numbered : remapper.layout.Numbered) :
    (∃ index, remapper.globalIndex partition key = .ok index) ↔
      remapper.layout.contains partition = true ∧ key < remapper.layout.cellsPerPartition := by
  rw [UInt32.lt_iff_toNat_lt, ← remapper.covers, ← Permutation.isSome_positionOf?_iff,
    Option.isSome_iff_exists]
  constructor
  · rintro ⟨index, indexed⟩
    obtain ⟨contained, position, held, _⟩ := (globalIndex_eq_ok_iff numbered).mp indexed
    exact ⟨contained, position, held⟩
  · rintro ⟨contained, position, held⟩
    have fits := cellOf_lt remapper.sound numbered contained (remapper.position_lt held)
    refine ⟨UInt64.ofNat (cellOf remapper.layout partition position.toNat), ?_⟩
    refine (globalIndex_eq_ok_iff numbered).mpr ⟨contained, position, held, ?_⟩
    exact UInt64.toNat_ofNat_of_lt' (fits.trans numbered.cells)

/-- The cells of the grid and the slots of its partitions correspond one to one, and no product,
sum or narrowing on the way there or back loses bits. -/
theorem locate_bijective (numbered : remapper.layout.Numbered) :
    (∀ index, (∃ place, remapper.locate index = .ok place) ↔
      index < remapper.layout.totalCells) ∧
    (∀ index partition key, remapper.locate index = .ok (partition, key) →
      remapper.layout.contains partition = true ∧ key < remapper.layout.cellsPerPartition ∧
        remapper.globalIndex partition key = .ok index) ∧
    (∀ partition key, (∃ index, remapper.globalIndex partition key = .ok index) ↔
      remapper.layout.contains partition = true ∧ key < remapper.layout.cellsPerPartition) ∧
    (∀ partition key index, remapper.globalIndex partition key = .ok index →
      remapper.locate index = .ok (partition, key)) ∧
    (∀ index, remapper.locateChecked index = some (remapper.locate index)) ∧
    (∀ partition key, remapper.globalIndexChecked partition key
      = some (remapper.globalIndex partition key)) := by
  refine ⟨?_, ?_, ?_, ?_, locateChecked_eq numbered, globalIndexChecked_eq numbered⟩
  · intro index
    exact ⟨fun ⟨place, located⟩ => lt_of_locate located, locate_of_lt⟩
  · intro index partition key located
    exact globalIndex_of_locate numbered located
  · intro partition key
    exact exists_globalIndex_iff numbered
  · intro partition key index indexed
    exact locate_of_globalIndex numbered indexed

theorem cell_nine_located : ∃ remapper : Remapper,
    remapper.layout = ⟨6, 4, 2, 2⟩ ∧ remapper.permutation.forward = #[2, 0, 3, 1] ∧
      remapper.layout.Numbered ∧ remapper.locate 9 = .ok (⟨0, 1⟩, 1) ∧
      remapper.globalIndex ⟨0, 1⟩ 1 = .ok 9 := by
  let permutation : Permutation := ⟨#[2, 0, 3, 1], #[1, 3, 0, 2], by decide, by decide⟩
  let remapper : Remapper :=
    ⟨⟨6, 4, 2, 2⟩, permutation, ⟨by decide, by decide, by decide⟩, by decide⟩
  have numbered : remapper.layout.Numbered := ⟨by decide, by decide, by decide⟩
  have located : remapper.locate 9 = .ok (⟨0, 1⟩, 1) := by decide
  exact ⟨remapper, rfl, rfl, numbered, located,
    ((locate_bijective numbered).2.1 9 ⟨0, 1⟩ 1 located).2.2⟩

end Remapper

end Cadastre
