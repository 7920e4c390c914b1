import Cadastre.Grid.Permutation
import Mathlib.Data.List.Perm.Subperm

/-!
The two tables of a permutation. Each undoes the other, and between them they number every
position and every key below their size.
-/

namespace Cadastre.Permutation

variable {permutation : Permutation}

theorem forward_injective (permutation : Permutation) (short : permutation.size < UInt32.size)
    {first second : Nat} {key : UInt32} (one : permutation.forward[first]? = some key)
    (other : permutation.forward[second]? = some key) : first = second := by
  obtain ⟨firstBound, firstKey⟩ := Array.getElem?_eq_some_iff.mp one
  obtain ⟨secondBound, secondKey⟩ := Array.getElem?_eq_some_iff.mp other
  have back := permutation.inverse_forward first firstBound
  rw [firstKey, ← secondKey, permutation.inverse_forward second secondBound] at back
  have same := congrArg UInt32.toNat (Option.some.inj back)
  have size : permutation.forward.size < UInt32.size := short
  rw [UInt32.toNat_ofNat_of_lt' (by omega), UInt32.toNat_ofNat_of_lt' (by omega)] at same
  exact same.symm

theorem forward_lt (permutation : Permutation) {position : Nat}
    (bound : position < permutation.forward.size) :
    permutation.forward[position].toNat < permutation.forward.size := by
  have back := permutation.inverse_forward position bound
  obtain ⟨below, _⟩ := Array.getElem?_eq_some_iff.mp back
  rw [← permutation.size_inverse]
  exact below

theorem perm_of_nodup_of_lt {keys : List Nat} {size : Nat} (distinct : keys.Nodup)
    (below : ∀ key ∈ keys, key < size) (length : keys.length = size) :
    keys.Perm (List.range size) := by
  apply (distinct.subperm _).perm_of_length_le
  · simp [length]
  · intro key member
    exact List.mem_range.mpr (below key member)

theorem forward_perm (permutation : Permutation) (short : permutation.size < UInt32.size) :
    (permutation.forward.toList.map UInt32.toNat).Perm (List.range permutation.size) := by
  apply perm_of_nodup_of_lt
  · rw [List.nodup_iff_pairwise_ne, List.pairwise_iff_getElem]
    intro first second firstBound secondBound before same
    simp only [List.length_map, Array.length_toList] at firstBound secondBound
    simp only [List.getElem_map, Array.getElem_toList] at same
    have position := permutation.forward_injective short
      (Array.getElem?_eq_getElem firstBound)
      ((Array.getElem?_eq_getElem secondBound).trans
        (congrArg some (UInt32.toNat_inj.mp same).symm))
    omega
  · intro key member
    simp only [List.mem_map, Array.mem_toList_iff] at member
    obtain ⟨held, found, rfl⟩ := member
    obtain ⟨position, bound, rfl⟩ := Array.mem_iff_getElem.mp found
    exact permutation.forward_lt bound
  · simp [size]

theorem exists_position (permutation : Permutation) (short : permutation.size < UInt32.size)
    {key : Nat} (below : key < permutation.forward.size) :
    ∃ position, ∃ bound : position < permutation.forward.size,
      permutation.forward[position].toNat = key := by
  have member := (permutation.forward_perm short).mem_iff.mpr (List.mem_range.mpr below)
  simp only [List.mem_map, Array.mem_toList_iff] at member
  obtain ⟨held, found, same⟩ := member
  obtain ⟨position, bound, rfl⟩ := Array.mem_iff_getElem.mp found
  exact ⟨position, bound, same⟩

theorem isSome_keyOf?_iff (position : UInt32) :
    (permutation.keyOf? position).isSome = true ↔ position.toNat < permutation.size := by
  simp [keyOf?, size]

theorem isSome_positionOf?_iff (key : UInt32) :
    (permutation.positionOf? key).isSome = true ↔ key.toNat < permutation.size := by
  simp [positionOf?, permutation.size_inverse, size]

theorem keyOf?_eq_some_iff (short : permutation.size < UInt32.size) (position key : UInt32) :
    permutation.keyOf? position = some key ↔ permutation.positionOf? key = some position := by
  constructor
  · intro held
    obtain ⟨bound, same⟩ := Array.getElem?_eq_some_iff.mp held
    have back := permutation.inverse_forward position.toNat bound
    rw [same, UInt32.ofNat_toNat] at back
    exact back
  · intro held
    have below := (isSome_positionOf?_iff key).mp (by rw [held]; rfl)
    obtain ⟨found, bound, same⟩ := permutation.exists_position short below
    have key' : permutation.forward[found] = key := UInt32.toNat_inj.mp same
    have back := permutation.inverse_forward found bound
    rw [key'] at back
    rw [positionOf?, back, Option.some.injEq] at held
    have fits : found < UInt32.size := Nat.lt_trans bound short
    rw [← held, keyOf?, UInt32.toNat_ofNat_of_lt' fits, Array.getElem?_eq_getElem bound, key']

end Cadastre.Permutation
