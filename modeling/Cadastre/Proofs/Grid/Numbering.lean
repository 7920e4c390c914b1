import Cadastre.Proofs.Grid.Counts

/-!
Partitions by number and partitions by row and column. Where an accepted grid has fewer than
`2 ^ 32` partitions, the numbers below their count and the rows and columns inside the grid name
the same partitions, each number one of them.
-/

namespace Cadastre

namespace Partition

variable {number perRow : UInt32} {partition : Partition}

theorem ordinal_ofOrdinal (number perRow : UInt32) :
    (ofOrdinal number perRow).ordinal perRow = number := by
  rw [← UInt32.toNat_inj, ordinal, ofOrdinal, UInt32.toNat_add, UInt32.toNat_mul,
    UInt32.toNat_div, UInt32.toNat_mod, Nat.mod_add_mod, Nat.div_add_mod']
  exact Nat.mod_eq_of_lt number.toNat_lt

theorem toNat_ordinal
    (fits : partition.row.toNat * perRow.toNat + partition.col.toNat < UInt32.size) :
    (partition.ordinal perRow).toNat
      = partition.row.toNat * perRow.toNat + partition.col.toNat := by
  rw [ordinal, UInt32.toNat_add, UInt32.toNat_mul, Nat.mod_add_mod]
  exact Nat.mod_eq_of_lt fits

theorem ofOrdinal_ordinal (left : partition.col.toNat < perRow.toNat)
    (fits : partition.row.toNat * perRow.toNat + partition.col.toNat < UInt32.size) :
    ofOrdinal (partition.ordinal perRow) perRow = partition := by
  have row : partition.ordinal perRow / perRow = partition.row := by
    rw [← UInt32.toNat_inj, UInt32.toNat_div, toNat_ordinal fits, tile_div left]
  have col : partition.ordinal perRow % perRow = partition.col := by
    rw [← UInt32.toNat_inj, UInt32.toNat_mod, toNat_ordinal fits, tile_mod left]
  rw [ofOrdinal, row, col]

end Partition

namespace Layout

variable {layout : Layout}

theorem check_eq_ok_iff (layout : Layout) : layout.check = .ok () ↔ layout.Sound := by
  rw [← fault?_eq_none_iff]
  unfold check
  split
  · rename_i faultless
    simp [faultless]
  · rename_i fault unfit
    simp [unfit]

section Few

variable (sound : layout.Sound) (few : layout.rows * layout.columns < UInt32.size)
include sound few

theorem Sound.toNat_perRow : layout.partitionsPerRow.toNat = layout.columns := by
  rw [toNat_partitionsPerRow]
  exact Nat.mod_eq_of_lt ((Nat.le_mul_of_pos_left _ sound.rows_pos).trans_lt few)

theorem Sound.toNat_perCol : layout.partitionsPerCol.toNat = layout.rows := by
  rw [toNat_partitionsPerCol]
  exact Nat.mod_eq_of_lt ((Nat.le_mul_of_pos_right _ sound.columns_pos).trans_lt few)

theorem Sound.toNat_partitionCount :
    layout.partitionCount.toNat = layout.rows * layout.columns := by
  rw [partitionCount, UInt32.toNat_mul, sound.toNat_perRow few, sound.toNat_perCol few,
    Nat.mul_comm]
  exact Nat.mod_eq_of_lt few

theorem Sound.perRow_ne_zero : layout.partitionsPerRow ≠ 0 := by
  intro none
  have columns := sound.toNat_perRow few
  rw [none] at columns
  exact absurd columns sound.columns_pos.ne

theorem Sound.contains_iff_lt (partition : Partition) : layout.contains partition = true ↔
    partition.row.toNat < layout.rows ∧ partition.col.toNat < layout.columns := by
  rw [contains_iff, ← toNat_partitionsPerRow, ← toNat_partitionsPerCol, sound.toNat_perRow few,
    sound.toNat_perCol few]

theorem Sound.contains_ofOrdinal_iff (number : UInt32) :
    layout.contains (.ofOrdinal number layout.partitionsPerRow) = true ↔
      number < layout.partitionCount := by
  rw [sound.contains_iff_lt few, UInt32.lt_iff_toNat_lt, sound.toNat_partitionCount few,
    Partition.ofOrdinal, UInt32.toNat_div, UInt32.toNat_mod, sound.toNat_perRow few,
    Nat.div_lt_iff_lt_mul sound.columns_pos]
  exact and_iff_left (Nat.mod_lt _ sound.columns_pos)

theorem Sound.ordinal_lt {partition : Partition} (inside : layout.contains partition = true) :
    partition.row.toNat * layout.partitionsPerRow.toNat + partition.col.toNat
      < layout.rows * layout.columns := by
  obtain ⟨above, left⟩ := (sound.contains_iff_lt few partition).mp inside
  rw [sound.toNat_perRow few]
  calc partition.row.toNat * layout.columns + partition.col.toNat
      < partition.row.toNat * layout.columns + layout.columns := Nat.add_lt_add_left left _
    _ = (partition.row.toNat + 1) * layout.columns := (Nat.succ_mul _ _).symm
    _ ≤ layout.rows * layout.columns := Nat.mul_le_mul_right _ above

theorem Sound.ofOrdinal_ordinal {partition : Partition}
    (inside : layout.contains partition = true) :
    .ofOrdinal (partition.ordinal layout.partitionsPerRow) layout.partitionsPerRow
      = partition := by
  apply Partition.ofOrdinal_ordinal
  · rw [sound.toNat_perRow few]
    exact ((sound.contains_iff_lt few partition).mp inside).2
  · exact (sound.ordinal_lt few inside).trans few

end Few

end Layout

namespace Selection

variable {layout : Layout} {partition : Partition}

theorem resolve_eq_ok_iff (selection : Selection) : selection.resolve layout = .ok partition ↔
    selection.named layout = .ok partition ∧ layout.contains partition = true := by
  unfold resolve
  cases named : selection.named layout with
  | error fault => simp [bind, Except.bind]
  | ok found =>
      by_cases inside : layout.contains found = true
      · simp only [bind, Except.bind, inside, ↓reduceIte, Except.ok.injEq]
        exact ⟨fun same => ⟨same, same ▸ inside⟩, fun both => both.1⟩
      · simp only [bind, Except.bind, inside, Bool.false_eq_true, ↓reduceIte, reduceCtorEq,
          Except.ok.injEq, false_iff]
        rintro ⟨rfl, inside'⟩
        exact inside inside'

theorem named_number (some' : layout.partitionsPerRow ≠ 0) (row col : Option UInt32)
    (number : UInt32) : named ⟨row, col, some number⟩ layout
      = .ok (.ofOrdinal number layout.partitionsPerRow) :=
  if_neg some'

theorem resolve_number_eq_ok_iff (some' : layout.partitionsPerRow ≠ 0)
    (row col : Option UInt32) (number : UInt32) :
    resolve ⟨row, col, some number⟩ layout = .ok partition ↔
      .ofOrdinal number layout.partitionsPerRow = partition ∧
        layout.contains partition = true := by
  rw [resolve_eq_ok_iff, named_number some', Except.ok.injEq]

theorem resolve_place_eq_ok_iff (row col : UInt32) :
    resolve ⟨some row, some col, none⟩ layout = .ok partition ↔
      ⟨row, col⟩ = partition ∧ layout.contains partition = true := by
  rw [resolve_eq_ok_iff, named, Except.ok.injEq]

/-- In an accepted grid of fewer than `2 ^ 32` partitions no count and no number is cut. A number
names a partition just if it is below the count, the partition has that number, and every
partition of the grid is named so; row and column name the same partitions. -/
theorem numbers_name_partitions {layout : Layout} (accepted : layout.check = .ok ())
    (few : layout.rows * layout.columns < UInt32.size) :
    (layout.partitionsPerRow.toNat = layout.columns ∧
      layout.partitionsPerCol.toNat = layout.rows ∧
      layout.partitionCount.toNat = layout.rows * layout.columns) ∧
    (∀ row col number,
      (∃ partition, resolve ⟨row, col, some number⟩ layout = .ok partition) ↔
        number < layout.partitionCount) ∧
    (∀ row col number partition, resolve ⟨row, col, some number⟩ layout = .ok partition →
      partition.ordinal layout.partitionsPerRow = number) ∧
    (∀ partition, layout.contains partition = true →
      partition.row.toNat * layout.partitionsPerRow.toNat < UInt32.size ∧
      (partition.ordinal layout.partitionsPerRow).toNat
        = partition.row.toNat * layout.columns + partition.col.toNat ∧
      ∀ row col, resolve ⟨row, col, some (partition.ordinal layout.partitionsPerRow)⟩ layout
        = .ok partition) ∧
    (∀ row col partition, resolve ⟨some row, some col, none⟩ layout = .ok partition ↔
      partition = ⟨row, col⟩ ∧
        ∃ number, resolve ⟨none, none, some number⟩ layout = .ok partition) := by
  have sound := layout.check_eq_ok_iff.mp accepted
  have byNumber : ∀ row col number partition,
      resolve ⟨row, col, some number⟩ layout = .ok partition ↔
        .ofOrdinal number layout.partitionsPerRow = partition ∧
          layout.contains partition = true := fun row col number _ =>
    resolve_number_eq_ok_iff (sound.perRow_ne_zero few) row col number
  have named : ∀ partition, layout.contains partition = true → ∀ row col,
      resolve ⟨row, col, some (partition.ordinal layout.partitionsPerRow)⟩ layout
        = .ok partition := fun partition inside row col =>
    (byNumber row col _ partition).mpr ⟨sound.ofOrdinal_ordinal few inside, inside⟩
  refine ⟨⟨sound.toNat_perRow few, sound.toNat_perCol few, sound.toNat_partitionCount few⟩,
    ?_, ?_, ?_, ?_⟩
  · intro row col number
    rw [← sound.contains_ofOrdinal_iff few]
    constructor
    · rintro ⟨partition, resolved⟩
      obtain ⟨rfl, inside⟩ := (byNumber row col number partition).mp resolved
      exact inside
    · intro inside
      exact ⟨_, (byNumber row col number _).mpr ⟨rfl, inside⟩⟩
  · intro row col number partition resolved
    obtain ⟨rfl, _⟩ := (byNumber row col number partition).mp resolved
    exact Partition.ordinal_ofOrdinal number _
  · intro partition inside
    have fits := (sound.ordinal_lt few inside).trans few
    refine ⟨Nat.lt_of_le_of_lt (Nat.le_add_right _ _) fits, ?_, named partition inside⟩
    rw [Partition.toNat_ordinal fits, sound.toNat_perRow few]
  · intro row col partition
    rw [resolve_place_eq_ok_iff]
    constructor
    · rintro ⟨rfl, inside⟩
      exact ⟨rfl, _, named _ inside none none⟩
    · rintro ⟨rfl, number, resolved⟩
      exact ⟨rfl, ((byNumber none none number _).mp resolved).2⟩

theorem numbers_of_two_by_three :
    Layout.check ⟨6, 4, 2, 2⟩ = .ok () ∧
      Layout.rows ⟨6, 4, 2, 2⟩ * Layout.columns ⟨6, 4, 2, 2⟩ < UInt32.size ∧
      (∃ partition, resolve ⟨none, none, some 5⟩ ⟨6, 4, 2, 2⟩ = .ok partition) ∧
      (¬ ∃ partition, resolve ⟨none, none, some 6⟩ ⟨6, 4, 2, 2⟩ = .ok partition) ∧
      resolve ⟨some 0, none, some (Partition.ordinal ⟨1, 2⟩ 3)⟩ ⟨6, 4, 2, 2⟩
        = .ok ⟨1, 2⟩ := by
  have accepted : Layout.check ⟨6, 4, 2, 2⟩ = .ok () := rfl
  have few : Layout.rows ⟨6, 4, 2, 2⟩ * Layout.columns ⟨6, 4, 2, 2⟩ < UInt32.size := by decide
  obtain ⟨_, below, _, inside, _⟩ := numbers_name_partitions accepted few
  refine ⟨accepted, few, (below none none 5).mpr (by decide), ?_,
    (inside ⟨1, 2⟩ (by decide)).2.2 (some 0) none⟩
  intro found
  exact absurd ((below none none 6).mp found) (by decide)

end Selection

end Cadastre
