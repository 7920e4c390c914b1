import Cadastre.Command.Basic
import Cadastre.Proofs.Grid.Bijection

/-!
Layouts with more rows or columns of partitions than 32 bits can number. A layout is accepted
however many there are, and the numbers are cut. The main statement says for which of the accepted
layouts cells still lie inside the grid of partitions, cells still have slots of their own, and a
partition can be named by its number.
-/

namespace Cadastre

namespace Layout

variable {layout : Layout}

def columns (layout : Layout) : Nat := layout.gridWidth.toNat / layout.partitionWidth.toNat

def rows (layout : Layout) : Nat := layout.gridHeight.toNat / layout.partitionHeight.toNat

theorem toNat_partitionsPerRow (layout : Layout) :
    layout.partitionsPerRow.toNat = layout.columns % UInt32.size := by
  rw [partitionsPerRow, UInt64.toNat_toUInt32, UInt64.toNat_div, UInt32.toNat_toUInt64]
  rfl

theorem toNat_partitionsPerCol (layout : Layout) :
    layout.partitionsPerCol.toNat = layout.rows % UInt32.size := by
  rw [partitionsPerCol, UInt64.toNat_toUInt32, UInt64.toNat_div, UInt32.toNat_toUInt64]
  rfl

theorem contains_iff (layout : Layout) (partition : Partition) :
    layout.contains partition = true ↔ partition.row.toNat < layout.rows % UInt32.size ∧
      partition.col.toNat < layout.columns % UInt32.size := by
  rw [contains, Bool.and_eq_true, decide_eq_true_eq, decide_eq_true_eq, UInt32.lt_iff_toNat_lt,
    UInt32.lt_iff_toNat_lt, toNat_partitionsPerRow, toNat_partitionsPerCol]

theorem partitionsPerRow_eq_zero_iff (layout : Layout) :
    layout.partitionsPerRow = 0 ↔ UInt32.size ∣ layout.columns := by
  rw [← UInt32.toNat_inj, toNat_partitionsPerRow, Nat.dvd_iff_mod_eq_zero]
  rfl

theorem partitionsPerCol_eq_zero_iff (layout : Layout) :
    layout.partitionsPerCol = 0 ↔ UInt32.size ∣ layout.rows := by
  rw [← UInt32.toNat_inj, toNat_partitionsPerCol, Nat.dvd_iff_mod_eq_zero]
  rfl

theorem Sound.columns_pos (sound : layout.Sound) : 0 < layout.columns := by
  have wide : layout.gridWidth.toNat ≠ 0 := by
    intro none
    exact sound.1 (Or.inl (UInt64.toNat_inj.mp (by rw [none]; rfl)))
  exact Nat.div_pos (Nat.le_of_dvd (Nat.pos_of_ne_zero wide) sound.width_dvd) sound.width_pos

theorem Sound.rows_pos (sound : layout.Sound) : 0 < layout.rows := by
  have high : layout.gridHeight.toNat ≠ 0 := by
    intro none
    exact sound.1 (Or.inr (Or.inl (UInt64.toNat_inj.mp (by rw [none]; rfl))))
  exact Nat.div_pos (Nat.le_of_dvd (Nat.pos_of_ne_zero high) sound.height_dvd) sound.height_pos

def corner (layout : Layout) (row col : Nat) : Nat :=
  row * layout.partitionHeight.toNat * layout.gridWidth.toNat + col * layout.partitionWidth.toNat

section Corner

variable {row col : Nat}

theorem Sound.col_of_corner_lt (sound : layout.Sound) (left : col < layout.columns) :
    col * layout.partitionWidth.toNat < layout.gridWidth.toNat :=
  tile_lt sound.width_dvd left sound.width_pos

theorem Sound.corner_lt (sound : layout.Sound) (above : row < layout.rows)
    (left : col < layout.columns) :
    layout.corner row col < layout.gridWidth.toNat * layout.gridHeight.toNat := by
  have start := sound.col_of_corner_lt left
  refine tile_lt (Nat.dvd_mul_right _ _) ?_ start
  rw [Nat.mul_div_cancel_left _ (Nat.zero_lt_of_lt start)]
  exact tile_lt sound.height_dvd above sound.height_pos

theorem Sound.corner_row (sound : layout.Sound) (row : Nat) (left : col < layout.columns) :
    layout.corner row col / layout.gridWidth.toNat = row * layout.partitionHeight.toNat :=
  tile_div (sound.col_of_corner_lt left)

theorem Sound.corner_col (sound : layout.Sound) (row : Nat) (left : col < layout.columns) :
    layout.corner row col % layout.gridWidth.toNat = col * layout.partitionWidth.toNat :=
  tile_mod (sound.col_of_corner_lt left)

end Corner

end Layout

namespace Remapper

variable {remapper : Remapper} {index : GlobalIndex} {partition : Partition} {key : LocalKey}

theorem locate_residues (located : remapper.locate index = .ok (partition, key)) :
    partition.row.toNat = index.toNat / remapper.layout.gridWidth.toNat
        / remapper.layout.partitionHeight.toNat % UInt32.size ∧
      partition.col.toNat = index.toNat % remapper.layout.gridWidth.toNat
        / remapper.layout.partitionWidth.toNat % UInt32.size ∧
      remapper.permutation.forward[rawPosition remapper.layout index.toNat]? = some key := by
  obtain ⟨layout, permutation, sound, covers⟩ := remapper
  unfold locate at located
  dsimp only at located ⊢
  split at located
  · cases located
  · split at located
    · rename_i found held
      cases located
      refine ⟨?_, ?_, ?_⟩
      · simp only [UInt64.toNat_toUInt32, UInt64.toNat_div, UInt32.toNat_toUInt64]
      · simp only [UInt64.toNat_toUInt32, UInt64.toNat_div, UInt64.toNat_mod,
          UInt32.toNat_toUInt64]
      · rw [Permutation.keyOf?, toNat_position sound] at held
        exact held
    · cases located

section Cells

variable (cells : remapper.layout.gridWidth.toNat * remapper.layout.gridHeight.toNat < UInt64.size)
include cells

theorem lt_totalCells_iff : index < remapper.layout.totalCells ↔
    index.toNat < remapper.layout.gridWidth.toNat * remapper.layout.gridHeight.toNat := by
  rw [UInt64.lt_iff_toNat_lt, Layout.totalCells, UInt64.toNat_mul, Nat.mod_eq_of_lt cells]

theorem locate_corner : ∃ key, ∀ row col, row < remapper.layout.rows →
    col < remapper.layout.columns →
    (UInt64.ofNat (remapper.layout.corner row col)).toNat = remapper.layout.corner row col ∧
      UInt64.ofNat (remapper.layout.corner row col) < remapper.layout.totalCells ∧
      remapper.locate (UInt64.ofNat (remapper.layout.corner row col))
        = .ok (⟨UInt32.ofNat row, UInt32.ofNat col⟩, key) := by
  have sound := remapper.sound
  have some : 0 < remapper.permutation.forward.size := by
    have size := remapper.size_eq
    rw [Permutation.size] at size
    rw [size]
    exact Nat.mul_pos sound.width_pos sound.height_pos
  refine ⟨remapper.permutation.forward[0], fun row col above left => ?_⟩
  have below := sound.corner_lt above left
  have exact : (UInt64.ofNat (remapper.layout.corner row col)).toNat
      = remapper.layout.corner row col := UInt64.toNat_ofNat_of_lt' (below.trans cells)
  have inside : UInt64.ofNat (remapper.layout.corner row col) < remapper.layout.totalCells := by
    rw [lt_totalCells_iff cells, exact]
    exact below
  obtain ⟨⟨partition, key⟩, located⟩ := locate_of_lt inside
  obtain ⟨rows, cols, held⟩ := locate_residues located
  rw [exact] at rows cols held
  rw [sound.corner_row row left, Nat.mul_div_cancel _ sound.height_pos] at rows
  rw [sound.corner_col row left, Nat.mul_div_cancel _ sound.width_pos] at cols
  rw [rawPosition, sound.corner_row row left, sound.corner_col row left, Nat.mul_mod_left,
    Nat.mul_mod_left, Nat.zero_mul, Nat.add_zero, Array.getElem?_eq_getElem some,
    Option.some.injEq] at held
  have rowSame : partition.row = UInt32.ofNat row := by
    rw [← UInt32.toNat_inj, rows, UInt32.toNat_ofNat']
  have colSame : partition.col = UInt32.ofNat col := by
    rw [← UInt32.toNat_inj, cols, UInt32.toNat_ofNat']
  refine ⟨exact, inside, ?_⟩
  rw [located, held, ← rowSame, ← colSame]

theorem contained_iff : (∀ index, index < remapper.layout.totalCells →
      ∃ partition key, remapper.locate index = .ok (partition, key) ∧
        remapper.layout.contains partition = true) ↔
    remapper.layout.columns < UInt32.size ∧ remapper.layout.rows < UInt32.size := by
  constructor
  · intro contained
    obtain ⟨firstKey, corners⟩ := locate_corner cells
    have wide := remapper.sound.columns_pos
    have high := remapper.sound.rows_pos
    have behind : ∀ row col, row < remapper.layout.rows → col < remapper.layout.columns →
        row % UInt32.size < remapper.layout.rows % UInt32.size ∧
          col % UInt32.size < remapper.layout.columns % UInt32.size := by
      intro row col above left
      obtain ⟨_, inside, found⟩ := corners row col above left
      obtain ⟨partition, key, located, held⟩ := contained _ inside
      rw [found] at located
      cases located
      rw [Layout.contains_iff, UInt32.toNat_ofNat', UInt32.toNat_ofNat'] at held
      exact held
    refine ⟨Nat.lt_of_not_le fun many => ?_, Nat.lt_of_not_le fun many => ?_⟩
    · have last : remapper.layout.columns % UInt32.size < remapper.layout.columns :=
        (Nat.mod_lt _ (by decide)).trans_le many
      have outside := (behind 0 _ high last).2
      rw [Nat.mod_mod] at outside
      exact Nat.lt_irrefl _ outside
    · have last : remapper.layout.rows % UInt32.size < remapper.layout.rows :=
        (Nat.mod_lt _ (by decide)).trans_le many
      have outside := (behind _ 0 last wide).1
      rw [Nat.mod_mod] at outside
      exact Nat.lt_irrefl _ outside
  · rintro ⟨columns, rows⟩ index inside
    obtain ⟨⟨partition, key⟩, located⟩ := locate_of_lt inside
    exact ⟨partition, key, located, (globalIndex_of_locate ⟨cells, columns, rows⟩ located).1⟩

theorem separated_iff : (∀ first second place, remapper.locate first = .ok place →
      remapper.locate second = .ok place → first = second) ↔
    remapper.layout.columns ≤ UInt32.size ∧ remapper.layout.rows ≤ UInt32.size := by
  constructor
  · intro separated
    obtain ⟨firstKey, corners⟩ := locate_corner cells
    have wide := remapper.sound.columns_pos
    have high := remapper.sound.rows_pos
    have start := corners 0 0 high wide
    refine ⟨Nat.le_of_not_lt fun many => ?_, Nat.le_of_not_lt fun many => ?_⟩
    · obtain ⟨exact, _, located⟩ := corners 0 UInt32.size high many
      have same := congrArg UInt64.toNat (separated _ _ _ start.2.2 located)
      have col := remapper.sound.corner_col 0 many
      rw [← exact, ← same, start.1, remapper.sound.corner_col 0 wide, Nat.zero_mul] at col
      exact absurd col (Nat.mul_pos (by decide) remapper.sound.width_pos).ne
    · obtain ⟨exact, _, located⟩ := corners UInt32.size 0 many wide
      have same := congrArg UInt64.toNat (separated _ _ _ start.2.2 located)
      have row := remapper.sound.corner_row UInt32.size wide
      rw [← exact, ← same, start.1, remapper.sound.corner_row 0 wide, Nat.zero_mul] at row
      exact absurd row (Nat.mul_pos (by decide) remapper.sound.height_pos).ne
  · rintro ⟨columns, rows⟩ first second ⟨partition, key⟩ one other
    have whole : ∀ index, remapper.locate index = .ok (partition, key) →
        cellOf remapper.layout partition (rawPosition remapper.layout index.toNat)
          = index.toNat := by
      intro index located
      obtain ⟨rowCut, colCut, _⟩ := locate_residues located
      obtain ⟨rowLess, colLess⟩ :=
        remapper.quotients_lt ((lt_totalCells_iff cells).mp (lt_of_locate located))
      rw [Nat.mod_eq_of_lt (rowLess.trans_le rows)] at rowCut
      rw [Nat.mod_eq_of_lt (colLess.trans_le columns)] at colCut
      exact cellOf_rawPosition remapper.sound rowCut colCut
    have position := remapper.permutation.forward_injective remapper.short
      (locate_residues one).2.2 (locate_residues other).2.2
    apply UInt64.toNat_inj.mp
    rw [← whole first one, ← whole second other, position]

end Cells

theorem layout_of_create {layout : Layout} {permutation : Permutation}
    (created : create layout permutation = .ok remapper) : remapper.layout = layout := by
  unfold create at created
  split at created
  · cases created
  · split at created
    · cases created
      rfl
    · cases created

theorem create_self (remapper : Remapper) :
    create remapper.layout remapper.permutation = .ok remapper := by
  have faultless := (Layout.fault?_eq_none_iff _).mpr remapper.sound
  unfold create
  split
  · rename_i fault unfit
    rw [faultless] at unfit
    cases unfit
  · rw [dif_pos remapper.covers]

end Remapper

theorem Selection.resolve_eq_zeroRow_iff (selection : Selection) (layout : Layout) :
    selection.resolve layout = .error .zeroRow ↔
      selection.number.isSome = true ∧ layout.partitionsPerRow = 0 := by
  have located : ∀ partition, (if layout.contains partition then Except.ok partition
      else .error (CommandFault.outside partition layout)) ≠ .error .zeroRow := by
    intro partition
    split <;> simp
  obtain ⟨row, col, number⟩ := selection
  unfold resolve named
  cases number with
  | some number =>
    by_cases zero : layout.partitionsPerRow = 0
    · simp [zero, bind, Except.bind]
    · simpa [zero, bind, Except.bind] using located _
  | none =>
    cases row <;> cases col <;> simp [bind, Except.bind, located]

/-- What acceptance of a layout and a permutation leaves open, and when: whether every cell lies in
a partition of the grid, whether two cells can share a slot, and whether the number of a partition
is divided by zero. -/
theorem Remapper.faults_of_create {layout : Layout} {permutation : Permutation}
    {remapper : Remapper} (created : create layout permutation = .ok remapper)
    (cells : layout.gridWidth.toNat * layout.gridHeight.toNat < UInt64.size) :
    ((∀ index, index < layout.totalCells → ∃ partition key,
        remapper.locate index = .ok (partition, key) ∧ layout.contains partition = true) ↔
      layout.columns < UInt32.size ∧ layout.rows < UInt32.size) ∧
    ((∀ first second place, remapper.locate first = .ok place →
        remapper.locate second = .ok place → first = second) ↔
      layout.columns ≤ UInt32.size ∧ layout.rows ≤ UInt32.size) ∧
    (layout.partitionsPerRow = 0 ↔ UInt32.size ∣ layout.columns) ∧
    (layout.partitionsPerCol = 0 ↔ UInt32.size ∣ layout.rows) ∧
    (∀ selection : Selection, selection.resolve layout = .error .zeroRow ↔
      selection.number.isSome = true ∧ UInt32.size ∣ layout.columns) := by
  obtain rfl := layout_of_create created
  refine ⟨contained_iff cells, separated_iff cells,
    remapper.layout.partitionsPerRow_eq_zero_iff, remapper.layout.partitionsPerCol_eq_zero_iff, ?_⟩
  intro selection
  rw [selection.resolve_eq_zeroRow_iff, Layout.partitionsPerRow_eq_zero_iff]

/-- A single row of `2 ^ 33` cells, each a partition: cells share slots, none lies in a partition of
the grid, and no partition can be named by its number. -/
theorem Remapper.row_of_single_cells : ∃ permutation remapper,
    create ⟨8589934592, 1, 1, 1⟩ permutation = .ok remapper ∧
      (8589934592 : UInt64).toNat * (1 : UInt64).toNat < UInt64.size ∧
      remapper.locate 0 = .ok (⟨0, 0⟩, 0) ∧ remapper.locate 4294967296 = .ok (⟨0, 0⟩, 0) ∧
      (¬ ∀ index, index < remapper.layout.totalCells → ∃ partition key,
        remapper.locate index = .ok (partition, key) ∧
          remapper.layout.contains partition = true) ∧
      (¬ ∀ first second place, remapper.locate first = .ok place →
        remapper.locate second = .ok place → first = second) ∧
      remapper.layout.partitionsPerRow = 0 ∧
      Selection.resolve ⟨none, none, some 0⟩ remapper.layout = .error .zeroRow := by
  let layout : Layout := ⟨8589934592, 1, 1, 1⟩
  let permutation : Permutation := ⟨#[0], #[0], by decide, by decide⟩
  let remapper : Remapper := ⟨layout, permutation, ⟨by decide, by decide, by decide⟩, by decide⟩
  have created : create layout permutation = .ok remapper := create_self remapper
  have cells : layout.gridWidth.toNat * layout.gridHeight.toNat < UInt64.size := by decide
  obtain ⟨contained, separated, perRow, perCol, named⟩ := faults_of_create created cells
  refine ⟨permutation, remapper, created, cells, by decide, by decide, ?_, ?_,
    perRow.mpr (by decide), (named _).mpr (by decide)⟩
  · intro all
    exact absurd (contained.mp all).1 (by decide)
  · intro apart
    exact absurd (separated.mp apart).1 (by decide)

end Cadastre
