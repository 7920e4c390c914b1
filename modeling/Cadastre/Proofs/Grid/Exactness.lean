import Cadastre.Proofs.Grid.Remapper

/-!
Exact arithmetic. In a layout whose cells, rows and columns can all be numbered, finding a cell's
slot and a slot's cell involves no product, sum or narrowing that loses bits. The main statements
compare both functions with ones that refuse such a step.
-/

namespace Cadastre

/-! Tiles of one size, side by side: what lies in one of them lies in the whole. -/

section Tiles

variable {whole part tile inner : Nat}

theorem tile_lt (divides : part ∣ whole) (inside : tile < whole / part) (below : inner < part) :
    tile * part + inner < whole :=
  calc tile * part + inner
      < (tile + 1) * part := by rw [Nat.succ_mul]; omega
    _ ≤ whole / part * part := Nat.mul_le_mul_right part inside
    _ = whole := Nat.div_mul_cancel divides

theorem tile_div (below : inner < part) : (tile * part + inner) / part = tile := by
  have positive : 0 < part := Nat.zero_lt_of_lt below
  rw [Nat.mul_comm, Nat.mul_add_div positive, Nat.div_eq_of_lt below, Nat.add_zero]

theorem tile_mod (below : inner < part) : (tile * part + inner) % part = inner := by
  rw [Nat.mul_comm, Nat.mul_add_mod, Nat.mod_eq_of_lt below]

end Tiles

/-! Arithmetic that is refused where the machine's would lose bits. -/

namespace Checked

def mul (a b : UInt64) : Option UInt64 :=
  if a.toNat * b.toNat < UInt64.size then some (a * b) else none

def add (a b : UInt64) : Option UInt64 :=
  if a.toNat + b.toNat < UInt64.size then some (a + b) else none

def narrow (a : UInt64) : Option UInt32 :=
  if a.toNat < UInt32.size then some a.toUInt32 else none

def mulKeys (a b : UInt32) : Option UInt32 :=
  if a.toNat * b.toNat < UInt32.size then some (a * b) else none

theorem mul_of_fits (a b : UInt64) (fits : a.toNat * b.toNat < UInt64.size) :
    mul a b = some (a * b) ∧ (a * b).toNat = a.toNat * b.toNat :=
  ⟨if_pos fits, by rw [UInt64.toNat_mul]; exact Nat.mod_eq_of_lt fits⟩

theorem add_of_fits (a b : UInt64) (fits : a.toNat + b.toNat < UInt64.size) :
    add a b = some (a + b) ∧ (a + b).toNat = a.toNat + b.toNat :=
  ⟨if_pos fits, by rw [UInt64.toNat_add]; exact Nat.mod_eq_of_lt fits⟩

theorem narrow_of_fits (a : UInt64) (fits : a.toNat < UInt32.size) :
    narrow a = some a.toUInt32 ∧ a.toUInt32.toNat = a.toNat :=
  ⟨if_pos fits, by rw [UInt64.toNat_toUInt32]; exact Nat.mod_eq_of_lt fits⟩

theorem mulKeys_of_fits (a b : UInt32) (fits : a.toNat * b.toNat < UInt32.size) :
    mulKeys a b = some (a * b) ∧ (a * b).toNat = a.toNat * b.toNat :=
  ⟨if_pos fits, by rw [UInt32.toNat_mul]; exact Nat.mod_eq_of_lt fits⟩

theorem tile_exact (tile part inner : UInt64) {whole : Nat} (small : whole < UInt64.size)
    (divides : part.toNat ∣ whole) (inside : tile.toNat < whole / part.toNat)
    (below : inner.toNat < part.toNat) :
    mul tile part = some (tile * part) ∧ add (tile * part) inner = some (tile * part + inner) ∧
      (tile * part + inner).toNat = tile.toNat * part.toNat + inner.toNat := by
  have bound := tile_lt divides inside below
  have product := mul_of_fits tile part (by omega)
  have sum := add_of_fits (tile * part) inner (by rw [product.2]; omega)
  rw [product.2] at sum
  exact ⟨product.1, sum.1, sum.2⟩

end Checked

namespace Layout

variable {layout : Layout}

def totalCellsChecked (layout : Layout) : Option UInt64 :=
  Checked.mul layout.gridWidth layout.gridHeight

def cellsPerPartitionChecked (layout : Layout) : Option UInt32 :=
  Checked.mulKeys layout.partitionWidth layout.partitionHeight

def partitionsPerRowChecked (layout : Layout) : Option UInt32 :=
  Checked.narrow (layout.gridWidth / layout.partitionWidth.toUInt64)

def partitionsPerColChecked (layout : Layout) : Option UInt32 :=
  Checked.narrow (layout.gridHeight / layout.partitionHeight.toUInt64)

def containsChecked (layout : Layout) (partition : Partition) : Option Bool := do
  let perCol ← layout.partitionsPerColChecked
  let perRow ← layout.partitionsPerRowChecked
  pure (partition.row < perCol && partition.col < perRow)

theorem Numbered.totalCells (numbered : layout.Numbered) :
    layout.totalCellsChecked = some layout.totalCells ∧
      layout.totalCells.toNat = layout.gridWidth.toNat * layout.gridHeight.toNat :=
  Checked.mul_of_fits _ _ numbered.cells

theorem Sound.cellsPerPartition (sound : layout.Sound) :
    layout.cellsPerPartitionChecked = some layout.cellsPerPartition ∧
      layout.cellsPerPartition.toNat
        = layout.partitionWidth.toNat * layout.partitionHeight.toNat :=
  Checked.mulKeys_of_fits _ _ sound.2.2

theorem Numbered.partitionsPerRow (numbered : layout.Numbered) :
    layout.partitionsPerRowChecked = some layout.partitionsPerRow ∧
      layout.partitionsPerRow.toNat = layout.gridWidth.toNat / layout.partitionWidth.toNat := by
  have quotient : (layout.gridWidth / layout.partitionWidth.toUInt64).toNat
      = layout.gridWidth.toNat / layout.partitionWidth.toNat := by
    rw [UInt64.toNat_div, UInt32.toNat_toUInt64]
  have narrowed := Checked.narrow_of_fits _ (quotient ▸ numbered.columns)
  exact ⟨narrowed.1, narrowed.2.trans quotient⟩

theorem Numbered.partitionsPerCol (numbered : layout.Numbered) :
    layout.partitionsPerColChecked = some layout.partitionsPerCol ∧
      layout.partitionsPerCol.toNat = layout.gridHeight.toNat / layout.partitionHeight.toNat := by
  have quotient : (layout.gridHeight / layout.partitionHeight.toUInt64).toNat
      = layout.gridHeight.toNat / layout.partitionHeight.toNat := by
    rw [UInt64.toNat_div, UInt32.toNat_toUInt64]
  have narrowed := Checked.narrow_of_fits _ (quotient ▸ numbered.rows)
  exact ⟨narrowed.1, narrowed.2.trans quotient⟩

theorem Numbered.containsChecked_eq (numbered : layout.Numbered) (partition : Partition) :
    layout.containsChecked partition = some (layout.contains partition) := by
  rw [containsChecked, numbered.partitionsPerCol.1, numbered.partitionsPerRow.1]
  rfl

theorem Numbered.contains_iff (numbered : layout.Numbered) (partition : Partition) :
    layout.contains partition = true ↔
      partition.row.toNat < layout.gridHeight.toNat / layout.partitionHeight.toNat ∧
        partition.col.toNat < layout.gridWidth.toNat / layout.partitionWidth.toNat := by
  rw [contains, Bool.and_eq_true, decide_eq_true_eq, decide_eq_true_eq, UInt32.lt_iff_toNat_lt,
    UInt32.lt_iff_toNat_lt, numbered.partitionsPerCol.2, numbered.partitionsPerRow.2]

end Layout

namespace Remapper

variable {remapper : Remapper} {layout : Layout} {index : GlobalIndex} {partition : Partition}
  {key : LocalKey}

theorem short (remapper : Remapper) : remapper.permutation.size < UInt32.size := by
  rw [remapper.covers]
  exact remapper.layout.cellsPerPartition.toNat_lt

theorem size_eq (remapper : Remapper) :
    remapper.permutation.size
      = remapper.layout.partitionWidth.toNat * remapper.layout.partitionHeight.toNat := by
  rw [remapper.covers, remapper.sound.cellsPerPartition.2]

/-- As `locate`, with every product, sum and narrowing checked. -/
def locateChecked (remapper : Remapper) (index : GlobalIndex) :
    Option (Except Fault (Partition × LocalKey)) := do
  let layout := remapper.layout
  let total ← layout.totalCellsChecked
  if total ≤ index then pure (.error (.indexOutOfRange index total))
  else
    let width := layout.partitionWidth.toUInt64
    let height := layout.partitionHeight.toUInt64
    let row := index / layout.gridWidth
    let col := index % layout.gridWidth
    let above ← Checked.mul (row % height) width
    let place ← Checked.add above (col % width)
    let position ← Checked.narrow place
    let partitionRow ← Checked.narrow (row / height)
    let partitionCol ← Checked.narrow (col / width)
    match remapper.permutation.keyOf? position with
    | some key => pure (.ok (⟨partitionRow, partitionCol⟩, key))
    | none => pure (.error (.invalidPermutation s!"no key for position {position}"))

def globalIndexChecked (remapper : Remapper) (partition : Partition) (key : LocalKey) :
    Option (Except Fault GlobalIndex) := do
  let layout := remapper.layout
  let contained ← layout.containsChecked partition
  if !contained then pure (.error (.invalidPartition partition.tag))
  else
    let cells ← layout.cellsPerPartitionChecked
    match remapper.permutation.positionOf? key with
    | none => pure (.error (.invalidLocalKey key cells))
    | some position =>
      let width := layout.partitionWidth.toUInt64
      let height := layout.partitionHeight.toUInt64
      let firstRow ← Checked.mul partition.row.toUInt64 height
      let row ← Checked.add firstRow (position.toUInt64 / width)
      let firstCol ← Checked.mul partition.col.toUInt64 width
      let col ← Checked.add firstCol (position.toUInt64 % width)
      let above ← Checked.mul row layout.gridWidth
      let index ← Checked.add above col
      pure (.ok index)

theorem quotients_lt (remapper : Remapper) {index : Nat}
    (inside : index < remapper.layout.gridWidth.toNat * remapper.layout.gridHeight.toNat) :
    index / remapper.layout.gridWidth.toNat / remapper.layout.partitionHeight.toNat
        < remapper.layout.gridHeight.toNat / remapper.layout.partitionHeight.toNat ∧
      index % remapper.layout.gridWidth.toNat / remapper.layout.partitionWidth.toNat
        < remapper.layout.gridWidth.toNat / remapper.layout.partitionWidth.toNat := by
  have wide : 0 < remapper.layout.gridWidth.toNat :=
    Nat.pos_of_mul_pos_right (Nat.zero_lt_of_lt inside)
  have row : index / remapper.layout.gridWidth.toNat < remapper.layout.gridHeight.toNat :=
    Nat.div_lt_of_lt_mul inside
  have col : index % remapper.layout.gridWidth.toNat < remapper.layout.gridWidth.toNat :=
    Nat.mod_lt _ wide
  exact ⟨Nat.div_lt_div_of_lt_of_dvd remapper.sound.height_dvd row,
    Nat.div_lt_div_of_lt_of_dvd remapper.sound.width_dvd col⟩

theorem position_exact (sound : layout.Sound) (row col : UInt64) :
    let tile := row % layout.partitionHeight.toUInt64
    let inner := col % layout.partitionWidth.toUInt64
    let place := tile * layout.partitionWidth.toUInt64 + inner
    Checked.mul tile layout.partitionWidth.toUInt64
        = some (tile * layout.partitionWidth.toUInt64) ∧
      Checked.add (tile * layout.partitionWidth.toUInt64) inner = some place ∧
      Checked.narrow place = some place.toUInt32 := by
  intro tile inner place
  have fits : layout.partitionWidth.toNat * layout.partitionHeight.toNat < UInt32.size :=
    sound.2.2
  have height : tile.toNat = row.toNat % layout.partitionHeight.toNat := by
    rw [UInt64.toNat_mod, UInt32.toNat_toUInt64]
  have width : inner.toNat = col.toNat % layout.partitionWidth.toNat := by
    rw [UInt64.toNat_mod, UInt32.toNat_toUInt64]
  have small : layout.partitionWidth.toNat * layout.partitionHeight.toNat < UInt64.size :=
    fits.trans (by decide)
  have divides : layout.partitionWidth.toUInt64.toNat
      ∣ layout.partitionWidth.toNat * layout.partitionHeight.toNat := by
    rw [UInt32.toNat_toUInt64]
    exact Nat.dvd_mul_right _ _
  have inside : tile.toNat < layout.partitionWidth.toNat * layout.partitionHeight.toNat
      / layout.partitionWidth.toUInt64.toNat := by
    rw [UInt32.toNat_toUInt64, Nat.mul_div_cancel_left _ sound.width_pos, height]
    exact Nat.mod_lt _ sound.height_pos
  have below : inner.toNat < layout.partitionWidth.toUInt64.toNat := by
    rw [UInt32.toNat_toUInt64, width]
    exact Nat.mod_lt _ sound.width_pos
  obtain ⟨product, sum, exact⟩ := Checked.tile_exact _ _ _ small divides inside below
  have bound := tile_lt divides inside below
  rw [← exact] at bound
  exact ⟨product, sum, (Checked.narrow_of_fits _ (bound.trans fits)).1⟩

theorem locateChecked_eq (numbered : remapper.layout.Numbered) (index : GlobalIndex) :
    remapper.locateChecked index = some (remapper.locate index) := by
  obtain ⟨total, totalExact⟩ := numbered.totalCells
  unfold locateChecked locate
  simp only [total, Option.bind_eq_bind, Option.bind_some]
  by_cases outside : remapper.layout.totalCells ≤ index
  · simp only [outside, ↓reduceIte]
    rfl
  · have inside := outside
    rw [UInt64.not_le, UInt64.lt_iff_toNat_lt, totalExact] at inside
    obtain ⟨rows, cols⟩ := remapper.quotients_lt inside
    obtain ⟨above, place, position⟩ := position_exact remapper.sound
      (index / remapper.layout.gridWidth) (index % remapper.layout.gridWidth)
    have row := Checked.narrow_of_fits
      (index / remapper.layout.gridWidth / remapper.layout.partitionHeight.toUInt64) (by
        rw [UInt64.toNat_div, UInt64.toNat_div, UInt32.toNat_toUInt64]
        exact rows.trans numbered.rows)
    have col := Checked.narrow_of_fits
      (index % remapper.layout.gridWidth / remapper.layout.partitionWidth.toUInt64) (by
        rw [UInt64.toNat_div, UInt64.toNat_mod, UInt32.toNat_toUInt64]
        exact cols.trans numbered.columns)
    simp only [outside, ↓reduceIte, above, place, position, row.1, col.1, Option.bind_some]
    generalize remapper.permutation.keyOf? _ = found
    cases found <;> rfl

def cellOf (layout : Layout) (partition : Partition) (position : Nat) : Nat :=
  (partition.row.toNat * layout.partitionHeight.toNat + position / layout.partitionWidth.toNat)
      * layout.gridWidth.toNat
    + (partition.col.toNat * layout.partitionWidth.toNat + position % layout.partitionWidth.toNat)

theorem row_of_slot_lt (sound : layout.Sound) (numbered : layout.Numbered) {position : Nat}
    (inside : layout.contains partition = true)
    (below : position < layout.partitionWidth.toNat * layout.partitionHeight.toNat) :
    partition.row.toNat * layout.partitionHeight.toNat + position / layout.partitionWidth.toNat
      < layout.gridHeight.toNat :=
  tile_lt sound.height_dvd ((numbered.contains_iff partition).mp inside).1
    (Nat.div_lt_of_lt_mul below)

theorem col_of_slot_lt (sound : layout.Sound) (numbered : layout.Numbered) (position : Nat)
    (inside : layout.contains partition = true) :
    partition.col.toNat * layout.partitionWidth.toNat + position % layout.partitionWidth.toNat
      < layout.gridWidth.toNat :=
  tile_lt sound.width_dvd ((numbered.contains_iff partition).mp inside).2
    (Nat.mod_lt _ sound.width_pos)

theorem cellOf_lt (sound : layout.Sound) (numbered : layout.Numbered) {position : Nat}
    (inside : layout.contains partition = true)
    (below : position < layout.partitionWidth.toNat * layout.partitionHeight.toNat) :
    cellOf layout partition position < layout.gridWidth.toNat * layout.gridHeight.toNat := by
  have col := col_of_slot_lt sound numbered position inside
  refine tile_lt (Nat.dvd_mul_right _ _) ?_ col
  rw [Nat.mul_div_cancel_left _ (Nat.zero_lt_of_lt col)]
  exact row_of_slot_lt sound numbered inside below

theorem cell_exact (sound : layout.Sound) (numbered : layout.Numbered) {position : UInt32}
    (inside : layout.contains partition = true)
    (below : position.toNat < layout.partitionWidth.toNat * layout.partitionHeight.toNat) :
    let width := layout.partitionWidth.toUInt64
    let height := layout.partitionHeight.toUInt64
    let row := partition.row.toUInt64 * height + position.toUInt64 / width
    let col := partition.col.toUInt64 * width + position.toUInt64 % width
    Checked.mul partition.row.toUInt64 height = some (partition.row.toUInt64 * height) ∧
      Checked.add (partition.row.toUInt64 * height) (position.toUInt64 / width) = some row ∧
      Checked.mul partition.col.toUInt64 width = some (partition.col.toUInt64 * width) ∧
      Checked.add (partition.col.toUInt64 * width) (position.toUInt64 % width) = some col ∧
      Checked.mul row layout.gridWidth = some (row * layout.gridWidth) ∧
      Checked.add (row * layout.gridWidth) col = some (row * layout.gridWidth + col) ∧
      (row * layout.gridWidth + col).toNat = cellOf layout partition position.toNat := by
  intro width height row col
  obtain ⟨rowInside, colInside⟩ := (numbered.contains_iff partition).mp inside
  have widthExact : width.toNat = layout.partitionWidth.toNat := UInt32.toNat_toUInt64 _
  have heightExact : height.toNat = layout.partitionHeight.toNat := UInt32.toNat_toUInt64 _
  have down : (position.toUInt64 / width).toNat
      = position.toNat / layout.partitionWidth.toNat := by
    rw [UInt64.toNat_div, widthExact, UInt32.toNat_toUInt64]
  have along : (position.toUInt64 % width).toNat
      = position.toNat % layout.partitionWidth.toNat := by
    rw [UInt64.toNat_mod, widthExact, UInt32.toNat_toUInt64]
  obtain ⟨firstRow, rowSum, rowExact⟩ := Checked.tile_exact partition.row.toUInt64
    height (position.toUInt64 / width) layout.gridHeight.toNat_lt
    (by rw [heightExact]; exact sound.height_dvd)
    (by rw [heightExact, UInt32.toNat_toUInt64]; exact rowInside)
    (by rw [heightExact, down]; exact Nat.div_lt_of_lt_mul below)
  obtain ⟨firstCol, colSum, colExact⟩ := Checked.tile_exact partition.col.toUInt64
    width (position.toUInt64 % width) layout.gridWidth.toNat_lt
    (by rw [widthExact]; exact sound.width_dvd)
    (by rw [widthExact, UInt32.toNat_toUInt64]; exact colInside)
    (by rw [widthExact, along]; exact Nat.mod_lt _ sound.width_pos)
  rw [UInt32.toNat_toUInt64, heightExact, down] at rowExact
  rw [UInt32.toNat_toUInt64, widthExact, along] at colExact
  have rowBound := row_of_slot_lt sound numbered inside below
  have colBound := col_of_slot_lt sound numbered position.toNat inside
  obtain ⟨above, cell, cellExact⟩ := Checked.tile_exact row layout.gridWidth col
    numbered.cells (Nat.dvd_mul_right _ _)
    (by
      rw [Nat.mul_div_cancel_left _ (Nat.zero_lt_of_lt colBound), rowExact]
      exact rowBound)
    (by rw [colExact]; exact colBound)
  rw [rowExact, colExact] at cellExact
  exact ⟨firstRow, rowSum, firstCol, colSum, above, cell, cellExact⟩

theorem position_lt (remapper : Remapper) {position : UInt32}
    (held : remapper.permutation.positionOf? key = some position) :
    position.toNat
      < remapper.layout.partitionWidth.toNat * remapper.layout.partitionHeight.toNat := by
  rw [← remapper.size_eq, ← Permutation.isSome_keyOf?_iff]
  rw [← Permutation.keyOf?_eq_some_iff remapper.short] at held
  rw [held]
  rfl

theorem globalIndexChecked_eq (numbered : remapper.layout.Numbered) (partition : Partition)
    (key : LocalKey) :
    remapper.globalIndexChecked partition key = some (remapper.globalIndex partition key) := by
  unfold globalIndexChecked globalIndex
  simp only [numbered.containsChecked_eq, Option.bind_eq_bind, Option.bind_some]
  cases inside : remapper.layout.contains partition with
  | false => rfl
  | true =>
      simp only [Bool.not_true, Bool.false_eq_true, ↓reduceIte,
        remapper.sound.cellsPerPartition.1, Option.bind_some]
      cases held : remapper.permutation.positionOf? key with
      | none => rfl
      | some position =>
          obtain ⟨firstRow, row, firstCol, col, above, cell, _⟩ :=
            cell_exact remapper.sound numbered inside (remapper.position_lt held)
          simp only [firstRow, row, firstCol, col, above, cell, Option.bind_some]
          rfl

end Remapper

end Cadastre
